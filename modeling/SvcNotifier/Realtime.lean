import SvcNotifier.Store
import SvcNotifier.Library.Broadcast

/-!
# `realtime.rs`

One instance's listener and its streams, over the database that all instances share. The
listener takes the committed signals one after the other and dispatches each to its end; what
it asks of the registry, of a channel and of the database is a call, and other tasks may run
between any two calls. Streams are opened, polled and closed at any time. A failed re-read is
a choice of the step that makes it, which is how a pool timeout and a lost connection end it.
-/

namespace SvcNotifier

open Library Program

/-- `ClientEvent`. -/
inductive ClientEvent where
  /-- A row has been inserted, and re-read. -/
  | added (notification : Notification)
  /-- Rows have been marked as read. -/
  | read (ids : List Uuid) (readAt : DateTime)
  /-- Rows have been removed. -/
  | deleted (ids : List Uuid)

/-- `NotifierNotificationEvent`. Its ids are the texts of the identifiers. -/
inductive NotifierNotificationEvent where
  /-- `NotificationAdded`. -/
  | notificationAdded (notification : NotificationNode)
  /-- `NotificationsRead`. -/
  | notificationsRead (ids : List Uuid) (readAt : DateTime)
  /-- `NotificationsDeleted`. -/
  | notificationsDeleted (ids : List Uuid)

/-- `into_union`. -/
def intoUnion : ClientEvent → NotifierNotificationEvent
  | .added notification => .notificationAdded (NotificationNode.from notification)
  | .read ids readAt => .notificationsRead ids readAt
  | .deleted ids => .notificationsDeleted ids

/-- `SUBSCRIPTION_LAGGED`. -/
def subscriptionLagged : String := "subscription_lagged"

/-- `lagged`. -/
def lagged (lostEvents : Nat) : EdgeError :=
  .invalidState subscriptionLagged [("lost_events", toString lostEvents)]

/-- The argument of `broadcast::channel`. -/
def channelCapacity : Nat := 256

/-- What `dispatch` asks of the rest of the service. -/
inductive HubCall where
  /-- `Subscribers::active`. -/
  | active (recipientId : Uuid)
  /-- `read_notification_for`. -/
  | readNotificationFor (recipientId id : Uuid)
  /-- `map.get(&recipient_id).cloned()`, under the lock. -/
  | sender (recipientId : Uuid)
  /-- `sender.send(event)`, outside the lock. -/
  | send (channel : Nat) (event : ClientEvent)

/-- What it is answered. A sender is its channel. -/
@[reducible]
def HubCall.Reply : HubCall → Type
  | .active _ => Bool
  | .readNotificationFor .. => Except SqlxError (Option Notification)
  | .sender _ => Option Nat
  | .send .. => Unit

/-- The dispatch of a signal never fails. -/
abbrev Dispatch := Program HubCall HubCall.Reply Empty PUnit

/-- Make one call. -/
def ask (request : HubCall) : Program HubCall HubCall.Reply Empty request.Reply :=
  perform request

/-- `Subscribers::deliver`. -/
def deliver (recipientId : Uuid) (event : ClientEvent) : Dispatch := do
  let sender ← ask (.sender recipientId)
  match sender with
  | some sender => do
    let _ ← ask (.send sender event)
  | none => pure ⟨⟩

/-- `dispatch`. -/
def dispatch (signal : NotificationSignal) : Dispatch := do
  let active ← ask (.active signal.recipientId)
  if active then
    match signal with
    | .added recipientId id => do
      let found ← ask (.readNotificationFor recipientId id)
      match found with
      | .ok (some notification) => deliver recipientId (.added notification)
      | .ok none => pure ⟨⟩
      | .error _ => pure ⟨⟩
    | .read recipientId ids readAt => deliver recipientId (.read ids readAt)
    | .deleted recipientId ids => deliver recipientId (.deleted ids)
  else pure ⟨⟩

/-- What became of a signal: nobody watches its recipient, its row is gone, its re-read failed,
no channel was found, or its event was sent. -/
inductive Fate where
  /-- Nobody watches its recipient. -/
  | inactive
  /-- Its row is gone. -/
  | gone
  /-- Its re-read has failed. -/
  | failed (error : SqlxError)
  /-- No channel was found. -/
  | unregistered
  /-- Its event was sent. -/
  | sent (event : ClientEvent)

/-- A signal that has been dispatched. -/
structure Dispatched where
  /-- The signal. -/
  signal : NotificationSignal
  /-- What became of it. -/
  fate : Fate
  /-- The table when its fate was decided. -/
  rows : List Row

/-- A stream of `notifier_notification_events`: `until_first_lag` over a receiver. -/
structure Stream where
  /-- Whose stream it is. -/
  recipientId : Uuid
  /-- The channel its receiver is on. -/
  channel : Nat
  /-- How many signals had been dispatched when it was opened. -/
  since : Nat
  /-- How much had been sent on its channel when it was opened. -/
  start : Nat
  /-- The position of its receiver. -/
  next : Nat
  /-- What the client has been served. -/
  items : List (Except EdgeError NotifierNotificationEvent)
  /-- It holds its receiver: it has not ended, and the client has not closed it. -/
  receiving : Bool

/-- One instance's realtime side. `dispatched` records what became of each signal. -/
structure Realtime where
  /-- The database. -/
  store : Store
  /-- How much of the log the listener has taken. -/
  position : Nat
  /-- The signal being dispatched, with what is left of its dispatch. -/
  dispatching : Option (NotificationSignal × Dispatch)
  /-- What became of each signal, the oldest first. -/
  dispatched : List Dispatched
  /-- `Subscribers`. -/
  registry : Uuid → Option Nat
  /-- What has been sent on each channel. -/
  channels : Nat → List ClientEvent
  /-- The next channel. -/
  fresh : Nat
  /-- Every stream ever opened. -/
  streams : List Stream

/-- `read_notification_for`, which sees the rows committed when its SELECT starts. -/
def reread (rows : List Row) (recipientId id : Uuid) : Except SqlxError (Option Notification) :=
  match onViews notificationsAppScope none [rows, rows] (readNotificationFor recipientId id) with
  | some found => found
  | none => .ok none

namespace Realtime

/-- A listener that listens, over a database with a table. -/
def start (rows : List Row) : Realtime :=
  { store := Store.start rows, position := 0, dispatching := none, dispatched := [],
    registry := fun _ => none, channels := fun _ => [], fresh := 0, streams := [] }

/-- `receiver_count`. -/
def receiverCount (hub : Realtime) (channel : Nat) : Nat :=
  (hub.streams.filter fun stream => stream.channel == channel && stream.receiving).length

/-- The answer of `active`. -/
def isActive (hub : Realtime) (recipientId : Uuid) : Bool :=
  match hub.registry recipientId with
  | none => false
  | some sender => decide (0 < hub.receiverCount sender)

/-- Take a channel out of the registry. -/
def evict (hub : Realtime) (recipientId : Uuid) : Realtime :=
  { hub with registry := Function.update hub.registry recipientId none }

/-- Record what became of a signal. -/
def record (hub : Realtime) (signal : NotificationSignal) (fate : Fate) : Realtime :=
  { hub with dispatched := hub.dispatched ++ [⟨signal, fate, hub.store.rows⟩] }

/-- Send on a channel; without a receiver, the ring does not take it. -/
def push (hub : Realtime) (channel : Nat) (event : ClientEvent) : Realtime :=
  if 0 < hub.receiverCount channel then
    { hub with
      channels := Function.update hub.channels channel (hub.channels channel ++ [event]) }
  else hub

/-- Go on with a dispatch. -/
def resume (hub : Realtime) (dispatching : Option (NotificationSignal × Dispatch)) : Realtime :=
  { hub with dispatching := dispatching }

/-- The answer to a call; `failure` is what the re-read fails with, if anything fails it. -/
def answer (hub : Realtime) (failure : Option SqlxError) : (request : HubCall) → request.Reply
  | .active recipientId => hub.isActive recipientId
  | .readNotificationFor recipientId id => match failure with
    | some error => .error error
    | none => reread hub.store.rows recipientId id
  | .sender recipientId => hub.registry recipientId
  | .send _ _ => ()

/-- What a call does, and what it decides of the signal. -/
def perform (hub : Realtime) (signal : NotificationSignal) (request : HubCall)
    (reply : request.Reply) :
    Realtime :=
  match request, reply with
  | .active recipientId, false => (hub.evict recipientId).record signal .inactive
  | .active _, true => hub
  | .readNotificationFor _ _, .ok none => hub.record signal .gone
  | .readNotificationFor _ _, .ok (some _) => hub
  | .readNotificationFor _ _, .error error => hub.record signal (.failed error)
  | .sender _, none => hub.record signal .unregistered
  | .sender _, some _ => hub
  | .send channel event, _ => (hub.push channel event).record signal (.sent event)

/-- `map.entry(recipient_id).or_insert_with(…)`: the channel registered, or a new one. -/
def entry (hub : Realtime) (recipientId : Uuid) : Nat :=
  match hub.registry recipientId with
  | some channel => channel
  | none => hub.fresh

/-- A stream over a new receiver of a channel. -/
def opening (hub : Realtime) (recipientId : Uuid) (channel : Nat) : Stream :=
  { recipientId := recipientId, channel := channel, since := hub.dispatched.length,
    start := (hub.channels channel).length, next := (hub.channels channel).length, items := [],
    receiving := true }

/-- `Subscribers::subscribe`, and the stream over its receiver. -/
def subscribe (hub : Realtime) (recipientId : Uuid) : Realtime :=
  { hub with
    registry := Function.update hub.registry recipientId (some (hub.entry recipientId))
    fresh := if (hub.registry recipientId).isNone then hub.fresh + 1 else hub.fresh
    streams := hub.streams ++ [hub.opening recipientId (hub.entry recipientId)] }

/-- `notifier_notification_events`. -/
def notifierNotificationEvents (hub : Realtime) (ctx : Context) : Except EdgeError Realtime :=
  match recipient ctx with
  | .error error => .error error
  | .ok caller => .ok (hub.subscribe caller)

/-- Replace a stream. -/
def setStream (hub : Realtime) (index : Nat) (stream : Stream) : Realtime :=
  { hub with streams := hub.streams.set index stream }

end Realtime

namespace Stream

/-- The stream once it has served an event. -/
def serve (stream : Stream) (event : ClientEvent) : Stream :=
  { stream with next := stream.next + 1, items := stream.items ++ [.ok (intoUnion event)] }

/-- The stream once it has ended on a verdict. -/
def endOn (stream : Stream) (error : EdgeError) : Stream :=
  { stream with items := stream.items ++ [.error error], receiving := false }

/-- The stream without its receiver. -/
def drop (stream : Stream) : Stream := { stream with receiving := false }

end Stream

namespace Realtime

/-- What the client is given next, by `until_first_lag`. A receiver whose channel has lost its
sender ends the stream once everything sent is served. -/
def pollStream (hub : Realtime) (stream : Stream) : Option Stream :=
  match receive channelCapacity (hub.channels stream.channel) stream.next with
  | .value event => some (stream.serve event)
  | .lagged lost => some (stream.endOn (lagged lost))
  | .pending =>
    if hub.registry stream.recipientId = some stream.channel then none else some stream.drop

/-- What happens next. -/
inductive Action where
  /-- Some instance does something in the database. -/
  | database (action : Store.Action)
  /-- The listener's connection drops and it listens again: what was committed in between is
  not notified. -/
  | relisten
  /-- The listener takes the next notification. -/
  | receive
  /-- The dispatch makes its next call; a re-read fails with `failure`, if given. -/
  | run (failure : Option SqlxError)
  /-- The dispatch returns. -/
  | finish
  /-- A client opens a stream. -/
  | subscribe (ctx : Context)
  /-- A client reads its stream. -/
  | poll (index : Nat)
  /-- A client closes its stream. -/
  | close (index : Nat)

/-- One step. -/
def step (hub : Realtime) : Action → Option Realtime
  | .database action => match hub.store.step action with
    | some store => some { hub with store := store }
    | none => none
  | .relisten => match hub.dispatching with
    | none => some { hub with position := hub.store.log.length }
    | some _ => none
  | .receive => match hub.dispatching, hub.store.log[hub.position]? with
    | none, some signal =>
      some { hub with position := hub.position + 1, dispatching := some (signal, dispatch signal) }
    | _, _ => none
  | .run failure => match hub.dispatching with
    | some (signal, .call request next) =>
      some ((hub.perform signal request (hub.answer failure request)).resume
        (some (signal, next (hub.answer failure request))))
    | _ => none
  | .finish => match hub.dispatching with
    | some (_, .done _) => some (hub.resume none)
    | _ => none
  | .subscribe ctx => match hub.notifierNotificationEvents ctx with
    | .ok opened => some opened
    | .error _ => some hub
  | .poll index => match hub.streams[index]? with
    | none => none
    | some stream =>
      if stream.receiving then match hub.pollStream stream with
        | some polled => some (hub.setStream index polled)
        | none => none
      else none
  | .close index => match hub.streams[index]? with
    | none => none
    | some stream => if stream.receiving then some (hub.setStream index stream.drop) else none

/-- Everything one step can do, with what it was found doing. -/
inductive Moves (hub : Realtime) : Action → Realtime → Prop where
  /-- The database takes a step. -/
  | database {action : Store.Action} {store : Store}
      (stepped : hub.store.step action = some store) :
      Moves hub (.database action) { hub with store := store }
  /-- The listener has lost its connection, and is past what was missed. -/
  | relisten (idle : hub.dispatching = none) :
      Moves hub .relisten { hub with position := hub.store.log.length }
  /-- The listener takes the next signal. -/
  | receive {signal : NotificationSignal} (idle : hub.dispatching = none)
      (notified : hub.store.log[hub.position]? = some signal) :
      Moves hub .receive
        { hub with position := hub.position + 1, dispatching := some (signal, dispatch signal) }
  /-- A call of the dispatch returns. -/
  | run {failure : Option SqlxError} {signal : NotificationSignal} {request : HubCall}
      {next : request.Reply → Dispatch}
      (at_ : hub.dispatching = some (signal, .call request next)) :
      Moves hub (.run failure) ((hub.perform signal request (hub.answer failure request)).resume
        (some (signal, next (hub.answer failure request))))
  /-- The dispatch is over. -/
  | finish {signal : NotificationSignal} (at_ : hub.dispatching = some (signal, .done ⟨⟩)) :
      Moves hub .finish (hub.resume none)
  /-- A stream is opened. -/
  | opens {ctx : Context} {caller : Uuid} (accepted : recipient ctx = .ok caller) :
      Moves hub (.subscribe ctx) (hub.subscribe caller)
  /-- A stream is refused. -/
  | refuses {ctx : Context} {error : EdgeError} (refused : recipient ctx = .error error) :
      Moves hub (.subscribe ctx) hub
  /-- A client reads its stream. -/
  | poll {index : Nat} {stream polled : Stream} (there : hub.streams[index]? = some stream)
      (receiving : stream.receiving = true) (given : hub.pollStream stream = some polled) :
      Moves hub (.poll index) (hub.setStream index polled)
  /-- A client closes its stream. -/
  | close {index : Nat} {stream : Stream} (there : hub.streams[index]? = some stream)
      (receiving : stream.receiving = true) :
      Moves hub (.close index) (hub.setStream index stream.drop)

/-- A step does one of these things. -/
theorem moves_of_step {hub after : Realtime} {action : Action}
    (stepped : hub.step action = some after) : hub.Moves action after := by
  cases action with
  | database action =>
    simp only [step] at stepped
    split at stepped
    · rename_i store moved
      obtain rfl := Option.some.inj stepped
      exact .database moved
    · contradiction
  | relisten =>
    simp only [step] at stepped
    split at stepped
    · rename_i idle
      obtain rfl := Option.some.inj stepped
      exact .relisten idle
    · contradiction
  | receive =>
    simp only [step] at stepped
    split at stepped
    · rename_i signal idle notified
      obtain rfl := Option.some.inj stepped
      exact .receive idle notified
    · contradiction
  | run failure =>
    simp only [step] at stepped
    split at stepped
    · rename_i signal request next at_
      obtain rfl := Option.some.inj stepped
      exact .run at_
    · contradiction
  | finish =>
    simp only [step] at stepped
    split at stepped
    · rename_i signal value at_
      obtain rfl := Option.some.inj stepped
      exact .finish at_
    · contradiction
  | subscribe ctx =>
    simp only [step, notifierNotificationEvents] at stepped
    cases resolved : recipient ctx with
    | error error =>
      rw [resolved] at stepped
      obtain rfl := Option.some.inj stepped
      exact .refuses resolved
    | ok caller =>
      rw [resolved] at stepped
      obtain rfl := Option.some.inj stepped
      exact .opens resolved
  | poll index =>
    simp only [step] at stepped
    split at stepped
    · contradiction
    · rename_i stream there
      split at stepped
      · rename_i receiving
        split at stepped
        · rename_i polled given
          obtain rfl := Option.some.inj stepped
          exact .poll there receiving given
        · contradiction
      · contradiction
  | close index =>
    simp only [step] at stepped
    split at stepped
    · contradiction
    · rename_i stream there
      split at stepped
      · rename_i receiving
        obtain rfl := Option.some.inj stepped
        exact .close there receiving
      · contradiction

end Realtime

/-! ## The dispatch of a signal -/

/-- How far the dispatch of a signal has come. -/
inductive Stand where
  /-- Its fate is open. -/
  | undecided
  /-- It has an event to deliver. -/
  | ready (event : ClientEvent)
  /-- It has the event and a channel's sender. -/
  | holding (channel : Nat) (event : ClientEvent)
  /-- Its fate is recorded. -/
  | settled

/-- The event of a signal that needs no re-read. -/
def NotificationSignal.event : NotificationSignal → Option ClientEvent
  | .added _ _ => none
  | .read _ ids readAt => some (.read ids readAt)
  | .deleted _ ids => some (.deleted ids)

/-- Where a dispatch stands once its recipient is found active. -/
def NotificationSignal.onward (signal : NotificationSignal) : Stand :=
  match signal.event with
  | some event => .ready event
  | none => .undecided

/-- What the calls of a dispatch decide. -/
def dispatchContract (signal : NotificationSignal) : Contract HubCall HubCall.Reply Stand where
  requires request stand := match request with
    | .active recipientId => stand = .undecided ∧ recipientId = signal.recipientId
    | .readNotificationFor recipientId id => stand = .undecided ∧ signal = .added recipientId id
    | .sender recipientId => (∃ event, stand = .ready event) ∧ recipientId = signal.recipientId
    | .send channel event => stand = .holding channel event
  allows request stand reply after := match request, reply with
    | .active _, true => after = signal.onward
    | .active _, false => after = .settled
    | .readNotificationFor _ _, .ok (some notification) => after = .ready (.added notification)
    | .readNotificationFor _ _, .ok none => after = .settled
    | .readNotificationFor _ _, .error _ => after = .settled
    | .sender _, some channel => ∀ event, stand = .ready event → after = .holding channel event
    | .sender _, none => after = .settled
    | .send _ _, _ => after = .settled

/-- Delivering an event settles the signal. -/
theorem deliver_ensures (signal : NotificationSignal) (event : ClientEvent) :
    Ensures (dispatchContract signal) (fun _ stand => stand = .settled)
      (deliver signal.recipientId event) (.ready event) := by
  refine ⟨⟨⟨event, rfl⟩, rfl⟩, ?_⟩
  intro reply after allowed
  cases reply with
  | none => exact allowed
  | some channel =>
    obtain rfl : after = .holding channel event := allowed event rfl
    exact ⟨rfl, fun _ after allowed => allowed⟩

/-- Every dispatch settles its signal: a dispatch that has returned has recorded one fate. -/
theorem dispatch_ensures (signal : NotificationSignal) :
    Ensures (dispatchContract signal) (fun _ stand => stand = .settled) (dispatch signal)
      .undecided := by
  refine ⟨⟨rfl, rfl⟩, ?_⟩
  intro reply after allowed
  cases reply with
  | false => exact allowed
  | true =>
    obtain rfl : after = signal.onward := allowed
    cases signal with
    | added recipientId id =>
      refine ⟨⟨rfl, rfl⟩, ?_⟩
      intro found after allowed
      match found with
      | .ok (some notification) =>
        obtain rfl : after = .ready (.added notification) := allowed
        exact deliver_ensures (.added recipientId id) (.added notification)
      | .ok none => exact allowed
      | .error error => exact allowed
    | read recipientId ids readAt =>
      exact deliver_ensures (.read recipientId ids readAt) (.read ids readAt)
    | deleted recipientId ids =>
      exact deliver_ensures (.deleted recipientId ids) (.deleted ids)

end SvcNotifier
