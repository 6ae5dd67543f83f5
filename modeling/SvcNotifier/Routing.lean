import SvcNotifier.Delivery
import SvcNotifier.Journal

/-!
# Whose events a stream serves

A recipient's events are kept apart from everybody else's over four hops: the write names the
row's owner, the signal is under the owner of the rows it names, the dispatch re-reads and
delivers under the recipient of the signal, and the registry gives that recipient's channel.
-/

namespace SvcNotifier

open Library Program

/-- The events a stream has served. -/
def Stream.served (stream : Stream) : List NotifierNotificationEvent :=
  stream.items.filterMap fun item => match item with
    | .ok event => some event
    | .error _ => none

/-- A stream at a later time. -/
structure Stream.Continues (stream later : Stream) : Prop where
  /-- It is of the same recipient. -/
  recipientId : later.recipientId = stream.recipientId
  /-- It is on the same channel. -/
  channel : later.channel = stream.channel
  /-- It started at the same place of that. -/
  start : later.start = stream.start
  /-- It was opened at the same time. -/
  since : later.since = stream.since

/-- A stream continues itself. -/
theorem Stream.Continues.refl (stream : Stream) : stream.Continues stream := ⟨rfl, rfl, rfl, rfl⟩

/-- A stream continues over two spans of time. -/
theorem Stream.Continues.trans {stream middle later : Stream} (first : stream.Continues middle)
    (second : middle.Continues later) : stream.Continues later :=
  ⟨second.recipientId.trans first.recipientId, second.channel.trans first.channel,
    second.start.trans first.start, second.since.trans first.since⟩

namespace Realtime

variable {hub after : Realtime} {stream : Stream} {initial : List Row}

/-- The events a stream has served are those its receiver has taken. -/
theorem Reads.served (reads : hub.Reads stream) :
    stream.served = (hub.taken stream).map intoUnion := by
  obtain ⟨verdict, items, tail⟩ := reads.items
  have given : ∀ events : List ClientEvent,
      (events.map fun event => (.ok (intoUnion event) : Except EdgeError _)).filterMap
        (fun item => match item with
          | .ok event => some event
          | .error _ => none) = events.map intoUnion := by
    intro events
    induction events with
    | nil => rfl
    | cons event events ih => exact congrArg (intoUnion event :: ·) ih
  rw [Stream.served, items, List.filterMap_append, given]
  rcases tail with rfl | ⟨-, error, rfl⟩
  · exact List.append_nil _
  · exact List.append_nil _

/-- A call of a dispatch leaves the streams alone. -/
theorem perform_streams (hub : Realtime) (signal : NotificationSignal) (request : HubCall)
    (reply : request.Reply) : (hub.perform signal request reply).streams = hub.streams := by
  unfold perform
  split
  case h_8 channel event reply => exact (push_keeps hub channel event).2.2.1
  all_goals rfl

/-- A call of a dispatch leaves the database alone. -/
theorem perform_store (hub : Realtime) (signal : NotificationSignal) (request : HubCall)
    (reply : request.Reply) : (hub.perform signal request reply).store = hub.store := by
  unfold perform
  split
  case h_8 channel event reply => exact (push_keeps hub channel event).2.2.2.2.1
  all_goals rfl

/-- A call of a dispatch takes nothing from the log. -/
theorem perform_position (hub : Realtime) (signal : NotificationSignal) (request : HubCall)
    (reply : request.Reply) : (hub.perform signal request reply).position = hub.position := by
  unfold perform
  split
  case h_8 channel event reply => exact (push_keeps hub channel event).2.2.2.2.2
  all_goals rfl

/-- A call of a dispatch takes no fate back. -/
theorem perform_dispatched (hub : Realtime) (signal : NotificationSignal) (request : HubCall)
    (reply : request.Reply) :
    hub.dispatched <+: (hub.perform signal request reply).dispatched := by
  unfold perform
  split
  case h_2 => exact List.prefix_rfl
  case h_4 => exact List.prefix_rfl
  case h_7 => exact List.prefix_rfl
  case h_8 channel event reply =>
    obtain ⟨-, -, -, dispatched, -⟩ := push_keeps hub channel event
    show hub.dispatched <+: (hub.push channel event).dispatched ++ _
    rw [dispatched]
    exact List.prefix_append _ _
  all_goals exact List.prefix_append _ _

/-- A step takes no fate back. -/
theorem dispatched_step {action : Action} (stepped : hub.step action = some after) :
    hub.dispatched <+: after.dispatched := by
  cases moves_of_step stepped with
  | run at_ => exact perform_dispatched _ _ _ _
  | _ => exact List.prefix_rfl

/-- A step is a step of the database, or leaves it alone. -/
theorem store_step {action : Action} (stepped : hub.step action = some after) :
    after.store = hub.store ∨ ∃ moved, hub.store.step moved = some after.store := by
  cases moves_of_step stepped with
  | @database action store moved => exact Or.inr ⟨action, moved⟩
  | run at_ => exact Or.inl (perform_store _ _ _ _)
  | _ => exact Or.inl rfl

/-- A run is a run of the database. -/
theorem store_reaches {guard : Realtime → Action → Prop} {later : Realtime}
    (run : Reaches step guard hub later) : Reaches Store.step anyStep hub.store later.store := by
  obtain ⟨actions, run⟩ := run
  exact run.project fun _ _ _ stepped => store_step stepped

/-- Reading a stream continues it. -/
theorem pollStream_continues {later : Stream} (given : hub.pollStream stream = some later) :
    stream.Continues later := by
  unfold pollStream at given
  split at given
  · obtain rfl := Option.some.inj given
    exact ⟨rfl, rfl, rfl, rfl⟩
  · obtain rfl := Option.some.inj given
    exact ⟨rfl, rfl, rfl, rfl⟩
  · split at given
    · contradiction
    · obtain rfl := Option.some.inj given
      exact ⟨rfl, rfl, rfl, rfl⟩

section

variable {related : Stream → Stream → Prop}

/-- Replacing a stream relates every stream to what it becomes. -/
theorem related_of_setStream (same : ∀ stream, related stream stream) {index : Nat}
    {current later : Stream} (there : hub.streams[index]? = some current)
    (becomes : related current later) {position : Nat}
    (at_ : hub.streams[position]? = some stream) :
    ∃ now, (hub.setStream index later).streams[position]? = some now ∧ related stream now := by
  have bound : index < hub.streams.length := (List.getElem?_eq_some_iff.mp there).1
  by_cases here : index = position
  · subst here
    obtain rfl : current = stream := Option.some.inj (there.symm.trans at_)
    exact ⟨later, List.getElem?_set_self bound, becomes⟩
  · refine ⟨stream, ?_, same stream⟩
    show (hub.streams.set index later)[position]? = some stream
    rw [List.getElem?_set_ne here]
    exact at_

/-- The rule for what becomes of a stream: what holds where nothing happens to it, where it is
read and where it is closed holds of every step. -/
theorem related_of_step (same : ∀ stream, related stream stream)
    (polled : ∀ current later, current.receiving = true →
      hub.pollStream current = some later → related current later)
    (closed : ∀ current, current.receiving = true → related current current.drop)
    {action : Action} (stepped : hub.step action = some after) {index : Nat}
    (there : hub.streams[index]? = some stream) :
    ∃ later, after.streams[index]? = some later ∧ related stream later := by
  cases moves_of_step stepped with
  | @run failure signal request next at_ =>
    refine ⟨stream, ?_, same stream⟩
    show (hub.perform signal request (hub.answer failure request)).streams[index]? = some stream
    rw [perform_streams]
    exact there
  | opens accepted =>
    refine ⟨stream, ?_, same stream⟩
    have bound : index < hub.streams.length := (List.getElem?_eq_some_iff.mp there).1
    show (hub.streams ++ [_])[index]? = some stream
    rw [List.getElem?_append_left bound]
    exact there
  | poll found receiving given =>
    exact related_of_setStream same found (polled _ _ receiving given) there
  | close found receiving =>
    exact related_of_setStream same found (closed _ receiving) there
  | _ => exact ⟨stream, there, same stream⟩

end

/-- Every step continues every stream. -/
theorem stream_step {action : Action} (stepped : hub.step action = some after) {index : Nat}
    (there : hub.streams[index]? = some stream) :
    ∃ later, after.streams[index]? = some later ∧ stream.Continues later := by
  refine related_of_step Stream.Continues.refl ?_ ?_ stepped there
  · exact fun _ _ _ given => pollStream_continues given
  · exact fun _ _ => ⟨rfl, rfl, rfl, rfl⟩

/-- Every run continues every stream. -/
theorem stream_reaches {guard : Realtime → Action → Prop} {later : Realtime}
    (run : Reaches step guard hub later) {index : Nat}
    (there : hub.streams[index]? = some stream) :
    ∃ now, later.streams[index]? = some now ∧ stream.Continues now := by
  have keeps : ∀ (s : Realtime) (a : Action) (t : Realtime),
      (∃ now, s.streams[index]? = some now ∧ stream.Continues now) → guard s a →
      s.step a = some t → ∃ now, t.streams[index]? = some now ∧ stream.Continues now := by
    rintro s a t ⟨now, at_, continues⟩ - stepped
    obtain ⟨later, still, goesOn⟩ := stream_step stepped at_
    exact ⟨later, still, continues.trans goesOn⟩
  exact run.invariant keeps ⟨stream, there, .refl stream⟩

/-- Two streams on one channel, opened at one place in it, serve the same events: the one that
has read less has served the beginning of what the other has. -/
theorem Routed.alike (routed : hub.Routed initial) {left right : Stream}
    (leftThere : left ∈ hub.streams) (rightThere : right ∈ hub.streams)
    (channel : left.channel = right.channel) (start : left.start = right.start) :
    left.served <+: right.served ∨ right.served <+: left.served := by
  rw [(routed.reads left leftThere).served, (routed.reads right rightThere).served, taken, taken,
    channel, start, List.drop_take, List.drop_take]
  rcases Nat.le_total left.next right.next with less | more
  · exact Or.inl ((List.take_prefix_take_left (by omega)).map intoUnion)
  · exact Or.inr ((List.take_prefix_take_left (by omega)).map intoUnion)

/-- What opening a stream gives. -/
theorem opened_of_accepted {ctx : Context}
    (accepted : hub.notifierNotificationEvents ctx = .ok after) :
    ∃ caller, recipient ctx = .ok caller ∧ after = hub.subscribe caller := by
  unfold notifierNotificationEvents at accepted
  cases resolved : recipient ctx with
  | error error =>
    rw [resolved] at accepted
    contradiction
  | ok caller =>
    rw [resolved] at accepted
    exact ⟨caller, rfl, (Except.ok.inj accepted).symm⟩

end Realtime

/-- Stream isolation end to end, in any run and whatever is lost in it. A stream serves only
events that concern the recipient its passport resolved to. A stream opened by an administrator
under impersonation is the one they would open directly, and of the two side by side neither is
served anything the other is not. A service passport opens nothing. -/
theorem stream_isolation (table : Notifications) (hub : Realtime)
    (reached : Reaches Realtime.step anyStep (Realtime.start table.rows) hub) :
    (∀ ctx opened, hub.notifierNotificationEvents ctx = .ok opened →
      ∃ caller, recipient ctx = .ok caller ∧
        ∀ later, Reaches Realtime.step anyStep opened later →
          ∃ stream, later.streams[hub.streams.length]? = some stream ∧
            ∀ item, .ok item ∈ stream.items →
              ∃ event, item = intoUnion event ∧ event.Concerns later.store caller) ∧
    (∀ user administrator,
      hub.notifierNotificationEvents ⟨some (.human user (some administrator))⟩ =
        hub.notifierNotificationEvents ⟨some (.human administrator none)⟩ ∧
      ∀ opened both,
        hub.notifierNotificationEvents ⟨some (.human user (some administrator))⟩ = .ok opened →
        opened.notifierNotificationEvents ⟨some (.human administrator none)⟩ = .ok both →
        ∀ later, Reaches Realtime.step anyStep both later →
          ∃ left right, later.streams[hub.streams.length]? = some left ∧
            later.streams[hub.streams.length + 1]? = some right ∧
            (left.served <+: right.served ∨ right.served <+: left.served)) ∧
    ∀ serviceId, hub.notifierNotificationEvents ⟨some (.service serviceId)⟩ = .error .forbidden ∧
      hub.step (.subscribe ⟨some (.service serviceId)⟩) = some hub := by
  have routed := Realtime.routed_of_reaches reached
  have keeps : ∀ (s : Realtime) (a : Realtime.Action) (t : Realtime), s.Routed table.rows →
      anyStep s a → s.step a = some t → t.Routed table.rows :=
    fun _ _ _ routed _ stepped => Realtime.routed_step routed stepped
  refine ⟨?_, ?_, fun serviceId => ⟨rfl, rfl⟩⟩
  · intro ctx opened accepted
    obtain ⟨caller, resolved, rfl⟩ := Realtime.opened_of_accepted accepted
    refine ⟨caller, resolved, fun later run => ?_⟩
    have there : (hub.subscribe caller).streams[hub.streams.length]? =
        some (hub.opening caller (hub.entry caller)) := List.getElem?_concat_length
    obtain ⟨stream, at_, continues⟩ := Realtime.stream_reaches run there
    refine ⟨stream, at_, fun item served => ?_⟩
    have own : stream.recipientId = caller := continues.recipientId
    rw [← own]
    exact (run.invariant keeps (routed.subscribe caller)).serves (List.mem_of_getElem? at_) served
  · intro user administrator
    refine ⟨rfl, fun opened both accepted also later run => ?_⟩
    obtain ⟨caller, resolved, rfl⟩ := Realtime.opened_of_accepted accepted
    obtain ⟨again, same, rfl⟩ := Realtime.opened_of_accepted also
    obtain rfl : administrator = caller := Except.ok.inj resolved
    obtain rfl : administrator = again := Except.ok.inj same
    have registered : (hub.subscribe administrator).entry administrator =
        hub.entry administrator := by
      have own : (hub.subscribe administrator).registry administrator =
          some (hub.entry administrator) := Function.update_self ..
      rw [Realtime.entry, own]
    have first : ((hub.subscribe administrator).subscribe administrator).streams[
        hub.streams.length]? = some (hub.opening administrator (hub.entry administrator)) := by
      show ((hub.streams ++ [_]) ++ [_])[_]? = _
      rw [List.getElem?_append_left (by simp)]
      exact List.getElem?_concat_length
    have second : ((hub.subscribe administrator).subscribe administrator).streams[
        hub.streams.length + 1]? = some ((hub.subscribe administrator).opening administrator
          ((hub.subscribe administrator).entry administrator)) := by
      have long : hub.streams.length + 1 = (hub.subscribe administrator).streams.length := by
        simp [Realtime.subscribe]
      rw [long]
      exact List.getElem?_concat_length
    obtain ⟨left, leftAt, leftGoes⟩ := Realtime.stream_reaches run first
    obtain ⟨right, rightAt, rightGoes⟩ := Realtime.stream_reaches run second
    refine ⟨left, right, leftAt, rightAt, ?_⟩
    apply (run.invariant keeps ((routed.subscribe administrator).subscribe administrator)).alike
      (List.mem_of_getElem? leftAt) (List.mem_of_getElem? rightAt)
    · rw [leftGoes.channel, rightGoes.channel]
      exact registered.symm
    · rw [leftGoes.start, rightGoes.start]
      show _ = (hub.channels ((hub.subscribe administrator).entry administrator)).length
      rw [registered]
      rfl

/-- An administrator who impersonates a user. -/
def sampleReader : Context := ⟨some (.human (sampleId 9) (some (sampleId 2)))⟩

/-- The dispatch of an `Added` somebody watches for. -/
def sampleDispatch : List Realtime.Action :=
  [.receive, .run none, .run none, .run none, .run none, .finish]

/-- The hub with the administrator's stream open, from which a fan-out to them and to somebody
else is committed, dispatched and served. -/
def sampleOpened : Realtime := (Realtime.start []).subscribe (sampleId 2)

/-- The run from `sampleOpened`. -/
def sampleStreaming : List Realtime.Action :=
  (sampleFanOut ++ [Store.Action.commit 0]).map .database ++ sampleDispatch ++ [.poll 0]

/-- The hub `sampleStreaming` leads to. -/
def sampleServed : Realtime := (play Realtime.step sampleOpened sampleStreaming).get (by decide)

/-- The stream has served one event, about the administrator's own notification. -/
theorem stream_isolation_sample :
    (∃ caller, recipient sampleReader = .ok caller ∧
      ∃ stream, sampleServed.streams[0]? = some stream ∧
        ∀ item, .ok item ∈ stream.items →
          ∃ event, item = intoUnion event ∧ event.Concerns sampleServed.store caller) ∧
    sampleServed.streams.map (fun stream => stream.served.length) = [1] := by
  obtain ⟨caller, resolved, served⟩ :=
    (stream_isolation .empty (Realtime.start []) (.refl _)).1 sampleReader sampleOpened rfl
  exact ⟨⟨caller, resolved, served sampleServed (reaches_of_play (Option.some_get _).symm)⟩,
    by decide⟩

end SvcNotifier
