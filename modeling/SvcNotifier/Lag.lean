import SvcNotifier.Rings

/-!
# The verdict of a stream that lags

`until_first_lag` over the ring itself: events are sent on the ring and the client reads its
stream in any order. What the client has been served is a beginning of what was sent since it
subscribed, and after it at most one verdict, which counts exactly what it lost. Every stream of
a hub is such a stream over the ring of its channel.
-/

namespace SvcNotifier

open Library Program

/-- What polling a stream gives. -/
inductive Polled (α : Type) where
  /-- Nothing, for now. -/
  | pending
  /-- A value. -/
  | ready (value : α)

/-- An item of `notifier_notification_events`. -/
abbrev StreamItem := Except EdgeError NotifierNotificationEvent

section

variable {capacity : Nat}

/-- The closure that `until_first_lag` unfolds. Its state is the receiver, given up with the
first lag; without one the stream is over. -/
def untilFirstLag (ring : RingBuffer ClientEvent capacity) (open_ : Option Nat) :
    Polled (Option (StreamItem × Option Nat)) :=
  match open_ with
  | none => .ready none
  | some next => match ring.recv next with
    | (.value event, next) => .ready (some (.ok (intoUnion event), some next))
    | (.lagged lost, _) => .ready (some (.error (lagged lost), none))
    | (.pending, _) => .pending

/-- A subscription: the ring it is on, the state of its stream and what the client has been
served. -/
structure Subscription (capacity : Nat) where
  /-- What its channel keeps. -/
  ring : RingBuffer ClientEvent capacity
  /-- The position of its receiver, until it is given up. -/
  open_ : Option Nat
  /-- What the client has been served. -/
  items : List StreamItem

namespace Subscription

/-- What happens next. -/
inductive Action where
  /-- An event is sent on the ring. -/
  | broadcast (event : ClientEvent)
  /-- The client reads its stream. -/
  | poll

/-- `subscribe`, on a ring on which something has been sent before. -/
def subscribe (past : List ClientEvent) : Subscription capacity :=
  let ring : RingBuffer ClientEvent capacity := past.foldl RingBuffer.send RingBuffer.empty
  { ring := ring, open_ := some ring.sent, items := [] }

/-- One step. A stream that has nothing to give, or is over, gives nothing. -/
def step (subscription : Subscription capacity) : Action → Option (Subscription capacity)
  | .broadcast event => some { subscription with ring := subscription.ring.send event }
  | .poll => match untilFirstLag subscription.ring subscription.open_ with
    | .pending => some subscription
    | .ready none => some subscription
    | .ready (some given) => some
      { subscription with open_ := given.2, items := subscription.items ++ [given.1] }

/-- The events sent in a run. -/
def broadcasts (actions : List Action) : List ClientEvent :=
  actions.filterMap fun action => match action with
    | .broadcast event => some event
    | .poll => none

/-- The items of events, none of them an error. -/
def served (events : List ClientEvent) : List StreamItem :=
  events.map fun event => .ok (intoUnion event)

/-- The stream has served the first events and goes on. -/
structure GoesOn (past events : List ClientEvent) (subscription : Subscription capacity) (k : Nat) :
    Prop where
  /-- So many events have been sent. -/
  inside : k ≤ events.length
  /-- They have been served, and nothing else. -/
  items : subscription.items = served (events.take k)
  /-- The next event is the one after them. -/
  open_ : subscription.open_ = some (past.length + k)

/-- The stream has served the first events and then the verdict, given after the first
`moment` events had been sent, and is over. -/
structure CutOff (events : List ClientEvent) (subscription : Subscription capacity)
    (k lost moment : Nat) : Prop where
  /-- So many events had been sent. -/
  inside : moment ≤ events.length
  /-- Something was lost. -/
  some_ : 1 ≤ lost
  /-- Served, lost and still kept events come to those sent. -/
  exact : k + lost + capacity = moment
  /-- The first events have been served, and the verdict after them. -/
  items : subscription.items = served (events.take k) ++ [.error (lagged lost)]
  /-- The receiver has been given up. -/
  ended : subscription.open_ = none

variable {past events : List ClientEvent} {subscription after : Subscription capacity}
  {k lost moment : Nat}

/-- One more event was sent. -/
theorem broadcasts_broadcast (actions : List Action) (event : ClientEvent) :
    broadcasts (actions ++ [.broadcast event]) = broadcasts actions ++ [event] :=
  List.filterMap_append

/-- Reading sends nothing. -/
theorem broadcasts_poll (actions : List Action) :
    broadcasts (actions ++ [.poll]) = broadcasts actions := by
  unfold broadcasts
  rw [List.filterMap_append]
  exact List.append_nil _

/-- What has been sent on the ring of a new subscription. -/
theorem subscribe_holds (past : List ClientEvent) :
    (subscribe past : Subscription capacity).ring.Holds past := by
  have sends : ∀ (before more : List ClientEvent) (ring : RingBuffer ClientEvent capacity),
      ring.Holds before → (more.foldl RingBuffer.send ring).Holds (before ++ more) := by
    intro before more
    induction more generalizing before with
    | nil =>
      intro ring holds
      rw [List.append_nil]
      exact holds
    | cons event more ih =>
      intro ring holds
      have rest := ih (before ++ [event]) (ring.send event) (holds.send event)
      rw [List.append_assoc] at rest
      exact rest
  exact sends [] past RingBuffer.empty RingBuffer.empty_holds

/-- What has been served stays a beginning of what is sent. -/
theorem served_grows (inside : k ≤ events.length) (event : ClientEvent) :
    served ((events ++ [event]).take k) = served (events.take k) := by
  rw [List.take_append_of_le_length inside]

/-- The next event of a stream that goes on has been overwritten when the ring has been filled
since it was sent. -/
theorem overwritten_iff (holds : subscription.ring.Holds (past ++ events)) :
    subscription.ring.Overwritten (past.length + k) ↔ k + capacity < events.length := by
  unfold RingBuffer.Overwritten
  rw [holds.oldest, List.length_append]
  omega

/-- What the client is given next is what a receiver gets of the events since it subscribed. -/
theorem GoesOn.poll (goesOn : GoesOn past events subscription k)
    (holds : subscription.ring.Holds (past ++ events)) :
    untilFirstLag subscription.ring subscription.open_ = match receive capacity events k with
      | .value event => .ready (some (.ok (intoUnion event), some (past.length + k + 1)))
      | .lagged lost => .ready (some (.error (lagged lost), none))
      | .pending => .pending := by
  have since : receive capacity (past ++ events) (past.length + k) = receive capacity events k := by
    rw [receive_drop, List.drop_append, List.drop_eq_nil_of_le (by omega), List.nil_append,
      Nat.add_sub_cancel_left, ← receive_drop]
  have got := (holds.recv (past.length + k)).trans since
  rw [goesOn.open_, ← got]
  cases given : subscription.ring.recv (past.length + k) with
  | mk received next =>
    cases received with
    | value event =>
      have moved : (subscription.ring.recv (past.length + k)).2 = past.length + k + 1 :=
        RingBuffer.recv_value (congrArg Prod.fst given)
      rw [given] at moved
      obtain rfl : next = past.length + k + 1 := moved
      simp only [untilFirstLag, given]
    | lagged lost => simp only [untilFirstLag, given]
    | pending => simp only [untilFirstLag, given]

/-- Where the next event has been overwritten, reading gives the verdict and ends the stream. -/
theorem GoesOn.lags (goesOn : GoesOn past events subscription k)
    (holds : subscription.ring.Holds (past ++ events)) (behind : k + capacity < events.length) :
    ∃ lost, 1 ≤ lost ∧ k + lost + capacity = events.length ∧
      subscription.step .poll = some
        { subscription with
          open_ := none
          items := subscription.items ++ [.error (lagged lost)] } := by
  refine ⟨events.length - capacity - k, by omega, by omega, ?_⟩
  simp only [step, goesOn.poll holds, receive, if_pos behind]

/-- Where the next event has not been overwritten, reading gives it. -/
theorem GoesOn.serves (goesOn : GoesOn past events subscription k)
    (holds : subscription.ring.Holds (past ++ events)) (kept : events.length ≤ k + capacity)
    {event : ClientEvent} (next : events[k]? = some event) :
    subscription.step .poll = some
      { subscription with
        open_ := some (past.length + k + 1)
        items := subscription.items ++ [.ok (intoUnion event)] } := by
  have ahead : ¬ k + capacity < events.length := Nat.not_lt.mpr kept
  simp only [step, goesOn.poll holds, receive, if_neg ahead, next]

/-- Where everything sent has been served, reading gives nothing. -/
theorem GoesOn.waits (goesOn : GoesOn past events subscription k)
    (holds : subscription.ring.Holds (past ++ events)) (all : events[k]? = none) :
    subscription.step .poll = some subscription := by
  have length := List.getElem?_eq_none_iff.mp all
  have ahead : ¬ k + capacity < events.length := by omega
  simp only [step, goesOn.poll holds, receive, if_neg ahead, all]

/-- One more event is served. -/
theorem served_next {event : ClientEvent} (next : events[k]? = some event) :
    served (events.take (k + 1)) = served (events.take k) ++ [.ok (intoUnion event)] := by
  rw [List.take_add_one, next, served, List.map_append]
  rfl

/-- A stream that is over gives nothing more, whatever is sent. -/
theorem ended_step {action : Action} (ended : subscription.open_ = none)
    (stepped : subscription.step action = some after) :
    after.open_ = none ∧ after.items = subscription.items := by
  cases action with
  | broadcast event =>
    obtain rfl := Option.some.inj stepped
    exact ⟨ended, rfl⟩
  | poll =>
    simp only [step, ended, untilFirstLag] at stepped
    obtain rfl := Option.some.inj stepped
    exact ⟨ended, rfl⟩

/-- How a subscription stands after a run. -/
def Stands (past : List ClientEvent) (actions : List Action)
    (subscription : Subscription capacity) : Prop :=
  subscription.ring.Holds (past ++ broadcasts actions) ∧
    ((∃ k, GoesOn past (broadcasts actions) subscription k) ∨
      ∃ k lost before later, actions = before ++ .poll :: later ∧
        CutOff (broadcasts actions) subscription k lost (broadcasts before).length)

/-- A new subscription has been served nothing. -/
theorem subscribe_stands (past : List ClientEvent) :
    Stands past [] (subscribe past : Subscription capacity) := by
  have holds : (subscribe past : Subscription capacity).ring.Holds past := subscribe_holds past
  refine ⟨?_, Or.inl ⟨0, Nat.le_refl 0, rfl, congrArg some holds.length⟩⟩
  show (subscribe past : Subscription capacity).ring.Holds (past ++ [])
  rw [List.append_nil]
  exact holds

/-- One more event is sent. -/
theorem Stands.broadcast {actions : List Action} (stands : Stands past actions subscription)
    (event : ClientEvent) : Stands past (actions ++ [.broadcast event])
      { subscription with ring := subscription.ring.send event } := by
  obtain ⟨holds, state⟩ := stands
  unfold Stands
  rw [broadcasts_broadcast]
  refine ⟨?_, ?_⟩
  · rw [← List.append_assoc]
    exact holds.send event
  · rcases state with ⟨k, goesOn⟩ | ⟨k, lost, before, later, rfl, cut⟩
    · have inside := goesOn.inside
      refine Or.inl ⟨k, ?_, ?_, goesOn.open_⟩
      · rw [List.length_append]
        omega
      · rw [served_grows inside]
        exact goesOn.items
    · have inside := cut.inside
      have exact_ := cut.exact
      refine Or.inr ⟨k, lost, before, later ++ [.broadcast event], by simp, ?_, cut.some_, exact_,
        ?_, cut.ended⟩
      · rw [List.length_append]
        omega
      · rw [served_grows (by omega)]
        exact cut.items

/-- The client reads its stream. -/
theorem Stands.poll {actions : List Action} (stands : Stands past actions subscription)
    (stepped : subscription.step .poll = some after) : Stands past (actions ++ [.poll]) after := by
  obtain ⟨holds, state⟩ := stands
  unfold Stands
  rw [broadcasts_poll]
  rcases state with ⟨k, goesOn⟩ | ⟨k, lost, before, later, rfl, cut⟩
  · by_cases behind : k + capacity < (broadcasts actions).length
    · obtain ⟨lost, some_, exact_, gives⟩ := goesOn.lags holds behind
      obtain rfl := Option.some.inj (gives.symm.trans stepped)
      refine ⟨holds, Or.inr ⟨k, lost, actions, [], rfl, Nat.le_refl _, some_, exact_, ?_, rfl⟩⟩
      rw [← goesOn.items]
    · have kept : (broadcasts actions).length ≤ k + capacity := Nat.not_lt.mp behind
      cases next : (broadcasts actions)[k]? with
      | none =>
        obtain rfl := Option.some.inj ((goesOn.waits holds next).symm.trans stepped)
        exact ⟨holds, Or.inl ⟨k, goesOn⟩⟩
      | some event =>
        obtain rfl := Option.some.inj ((goesOn.serves holds kept next).symm.trans stepped)
        have bound := (List.getElem?_eq_some_iff.mp next).1
        refine ⟨holds, Or.inl ⟨k + 1, bound, ?_, rfl⟩⟩
        rw [served_next next, ← goesOn.items]
  · simp only [step, cut.ended, untilFirstLag] at stepped
    obtain rfl := Option.some.inj stepped
    exact ⟨holds, Or.inr ⟨k, lost, before, later ++ [.poll], by simp, cut⟩⟩

/-- Every run. -/
theorem stands_of_steps {actions : List Action}
    (run : Steps step anyStep (subscribe past) actions subscription) :
    Stands past actions subscription := by
  refine run.traced ?_ (subscribe_stands past)
  intro before middle action later stands _ stepped
  cases action with
  | broadcast event =>
    obtain rfl := Option.some.inj stepped
    exact stands.broadcast event
  | poll => exact stands.poll stepped

/-- What reading a stream that goes on gives. -/
structure GivesNext (past events : List ClientEvent) (subscription : Subscription capacity)
    (k : Nat) : Prop where
  /-- It gives an error exactly where the next event has been overwritten. -/
  verdict : (∃ error after, subscription.step .poll = some after ∧
    after.items = subscription.items ++ [.error error]) ↔
      subscription.ring.Overwritten (past.length + k)
  /-- The error counts what was lost. -/
  exact : ∀ error after, subscription.step .poll = some after →
    after.items = subscription.items ++ [.error error] →
      ∃ lost, error = lagged lost ∧ CutOff events after k lost events.length
  /-- Otherwise it gives the next event. -/
  serves : ∀ event, events[k]? = some event → ¬ subscription.ring.Overwritten (past.length + k) →
    ∃ after, subscription.step .poll = some after ∧ GoesOn past events after (k + 1)
  /-- Where there is none, it gives nothing. -/
  waits : events.length = k → subscription.step .poll = some subscription

/-- What reading a stream that goes on gives. -/
theorem GoesOn.givesNext (goesOn : GoesOn past events subscription k)
    (holds : subscription.ring.Holds (past ++ events)) :
    GivesNext past events subscription k := by
  have overwritten := overwritten_iff (k := k) holds
  have inside := goesOn.inside
  have kept : ¬ subscription.ring.Overwritten (past.length + k) → events.length ≤ k + capacity := by
    intro not_
    exact Nat.not_lt.mp fun behind => not_ (overwritten.mpr behind)
  have onlyLags : ∀ error after, subscription.step .poll = some after →
      after.items = subscription.items ++ [.error error] → k + capacity < events.length := by
    intro error after stepped items
    by_contra ahead
    cases next : events[k]? with
    | none =>
      obtain rfl := Option.some.inj ((goesOn.waits holds next).symm.trans stepped)
      simp at items
    | some event =>
      have serves := goesOn.serves holds (Nat.not_lt.mp ahead) next
      obtain rfl := Option.some.inj (serves.symm.trans stepped)
      have same := List.append_cancel_left items
      simp at same
  refine ⟨⟨?_, ?_⟩, ?_, ?_, ?_⟩
  · intro given
    obtain ⟨error, after, stepped, items⟩ := given
    exact overwritten.mpr (onlyLags error after stepped items)
  · intro lost_
    obtain ⟨lost, -, -, gives⟩ := goesOn.lags holds (overwritten.mp lost_)
    exact ⟨lagged lost, _, gives, rfl⟩
  · intro error after stepped items
    obtain ⟨lost, some_, exact_, gives⟩ := goesOn.lags holds (onlyLags error after stepped items)
    obtain rfl := Option.some.inj (gives.symm.trans stepped)
    have same := List.append_cancel_left items
    refine ⟨lost, (Except.error.inj (List.cons.inj same).1).symm, Nat.le_refl _, some_, exact_, ?_,
      rfl⟩
    rw [← goesOn.items]
  · intro event next not_
    have bound := (List.getElem?_eq_some_iff.mp next).1
    refine ⟨_, goesOn.serves holds (kept not_) next, bound, ?_, rfl⟩
    rw [served_next next, ← goesOn.items]
  · intro all
    exact goesOn.waits holds (List.getElem?_eq_none_iff.mpr (Nat.le_of_eq all))

/-- A stream that is over gives nothing more in any run. -/
theorem ended_steps {actions : List Action} {later : Subscription capacity}
    (ended : subscription.open_ = none) (run : Steps step anyStep subscription actions later) :
    later.items = subscription.items := by
  have keeps : ∀ (s : Subscription capacity) (a : Action) (t : Subscription capacity),
      s.open_ = none ∧ s.items = subscription.items → anyStep s a → s.step a = some t →
      t.open_ = none ∧ t.items = subscription.items := by
    intro s a t held _ stepped
    obtain ⟨still, same⟩ := ended_step held.1 stepped
    exact ⟨still, same.trans held.2⟩
  exact (run.invariant keeps ⟨ended, rfl⟩).2

/-- Events sent one after the other, while the client reads nothing. -/
theorem broadcast_all (subscription : Subscription capacity) (more : List ClientEvent) :
    Steps step anyStep subscription (more.map .broadcast)
        { subscription with ring := more.foldl RingBuffer.send subscription.ring } ∧
      broadcasts (more.map .broadcast) = more := by
  induction more generalizing subscription with
  | nil => exact ⟨.refl subscription, rfl⟩
  | cons event more ih =>
    obtain ⟨rest, sent⟩ := ih { subscription with ring := subscription.ring.send event }
    exact ⟨.next trivial rfl rest, congrArg (event :: ·) sent⟩

/-- What is sent in two runs, one after the other. -/
theorem broadcasts_append (before after : List Action) :
    broadcasts (before ++ after) = broadcasts before ++ broadcasts after :=
  List.filterMap_append

end Subscription

end

namespace Realtime

variable {hub after : Realtime} {stream : Stream} {initial : List Row}

/-- The stream is a subscription on the ring of its channel, with what was sent on it since. -/
def Mirrored (hub : Realtime) (stream : Stream) : Prop :=
  ∃ actions, ∃ subscription : Subscription channelCapacity,
    Steps Subscription.step anyStep
      (Subscription.subscribe ((hub.channels stream.channel).take stream.start)) actions
      subscription ∧
    Subscription.broadcasts actions = (hub.channels stream.channel).drop stream.start ∧
    subscription.items = stream.items ∧
    (stream.receiving = true → subscription.open_ = some stream.next)

/-- What has been sent on a channel stays sent. -/
theorem channels_grow {action : Action} (stepped : hub.step action = some after) (channel : Nat) :
    hub.channels channel <+: after.channels channel := by
  have perform_ : ∀ signal request reply,
      hub.channels channel <+: (hub.perform signal request reply).channels channel := by
    intro signal request reply
    unfold perform
    split
    case h_8 on event reply =>
      obtain ⟨others, own⟩ := push_channels hub on event
      show hub.channels channel <+: (hub.push on event).channels channel
      by_cases same : channel = on
      · rw [same, own]
        exact List.prefix_append _ _
      · rw [others channel same]
    all_goals exact List.prefix_rfl
  cases moves_of_step stepped with
  | run at_ => exact perform_ _ _ _
  | _ => exact List.prefix_rfl

/-- A stream is still a subscription when more has been sent on its channel. -/
theorem Mirrored.grows (mirrored : hub.Mirrored stream) (reads : hub.Reads stream)
    (grown : hub.channels stream.channel <+: after.channels stream.channel) :
    after.Mirrored stream := by
  obtain ⟨actions, subscription, run, sent, items, open_⟩ := mirrored
  obtain ⟨more, same⟩ := grown
  have started := reads.started
  have inside := reads.inside
  have past : stream.start ≤ (hub.channels stream.channel).length := by omega
  obtain ⟨sends, all⟩ := Subscription.broadcast_all subscription more
  refine ⟨actions ++ more.map .broadcast,
    { subscription with ring := more.foldl RingBuffer.send subscription.ring }, ?_, ?_, items,
    open_⟩
  · rw [← same, List.take_append_of_le_length past]
    exact run.append sends
  · rw [← same, Subscription.broadcasts_append, all, sent, List.drop_append_of_le_length past]

/-- The ring of a stream's subscription holds what was sent on its channel. -/
theorem ring_of_steps {actions : List Subscription.Action}
    {subscription : Subscription channelCapacity}
    (run : Steps Subscription.step anyStep
      (Subscription.subscribe ((hub.channels stream.channel).take stream.start)) actions
      subscription)
    (sent : Subscription.broadcasts actions = (hub.channels stream.channel).drop stream.start) :
    subscription.ring.Holds (hub.channels stream.channel) := by
  have holds := (Subscription.stands_of_steps run).1
  rw [sent, List.take_append_drop] at holds
  exact holds

/-- Reading a stream is reading its subscription. -/
theorem Mirrored.polled (mirrored : hub.Mirrored stream) (receiving : stream.receiving = true)
    {later : Stream} (given : hub.pollStream stream = some later) : hub.Mirrored later := by
  obtain ⟨actions, subscription, run, sent, items, open_⟩ := mirrored
  have got := (ring_of_steps run sent).recv stream.next
  have reading := open_ receiving
  have continues := pollStream_continues given
  have polls : ∀ polled, subscription.step .poll = some polled →
      Steps Subscription.step anyStep
        (Subscription.subscribe ((hub.channels later.channel).take later.start))
        (actions ++ [.poll]) polled ∧
      Subscription.broadcasts (actions ++ [.poll]) =
        (hub.channels later.channel).drop later.start := by
    intro polled stepped
    rw [continues.channel, continues.start, Subscription.broadcasts_poll]
    exact ⟨run.snoc trivial stepped, sent⟩
  cases received : subscription.ring.recv stream.next with
  | mk what next =>
    rw [received] at got
    cases what with
    | value event =>
      have moved : (subscription.ring.recv stream.next).2 = stream.next + 1 :=
        RingBuffer.recv_value (congrArg Prod.fst received)
      rw [received] at moved
      rw [pollStream, ← got] at given
      obtain rfl := Option.some.inj given
      obtain ⟨steps, same⟩ := polls
        { subscription with
          open_ := some next
          items := subscription.items ++ [.ok (intoUnion event)] }
        (by simp only [Subscription.step, reading, untilFirstLag, received])
      exact ⟨_, _, steps, same, congrArg (· ++ _) items, fun _ => congrArg some moved⟩
    | lagged lost =>
      rw [pollStream, ← got] at given
      obtain rfl := Option.some.inj given
      obtain ⟨steps, same⟩ := polls
        { subscription with
          open_ := none
          items := subscription.items ++ [.error (lagged lost)] }
        (by simp only [Subscription.step, reading, untilFirstLag, received])
      refine ⟨_, _, steps, same, congrArg (· ++ _) items, ?_⟩
      intro still
      contradiction
    | pending =>
      rw [pollStream, ← got] at given
      simp only at given
      split at given
      · contradiction
      · obtain rfl := Option.some.inj given
        refine ⟨actions, subscription, run, sent, items, ?_⟩
        intro still
        contradiction

/-- Every stream of the hub is a subscription. -/
def AllMirrored (hub : Realtime) : Prop := ∀ stream ∈ hub.streams, hub.Mirrored stream

/-- Every step keeps the streams subscriptions. -/
theorem mirrored_step {action : Action} (routed : hub.Routed initial) (mirrored : hub.AllMirrored)
    (stepped : hub.step action = some after) : after.AllMirrored := by
  have kept : ∀ stream ∈ hub.streams, after.Mirrored stream := by
    intro stream member
    exact (mirrored stream member).grows (routed.reads stream member)
      (channels_grow stepped stream.channel)
  cases moves_of_step stepped with
  | @run failure signal request next at_ =>
    intro stream member
    have there : stream ∈
        (hub.perform signal request (hub.answer failure request)).streams := member
    rw [perform_streams] at there
    exact kept stream there
  | @opens ctx caller accepted =>
    intro stream member
    rcases List.mem_append.mp member with old | new
    · exact kept stream old
    · obtain rfl := List.mem_singleton.mp new
      refine ⟨[], _, .refl _, ?_, rfl, ?_⟩
      · exact (List.drop_eq_nil_of_le (Nat.le_refl _)).symm
      · intro _
        refine congrArg some ((Subscription.subscribe_holds _).length.trans ?_)
        show
          ((hub.channels (hub.entry caller)).take (hub.channels (hub.entry caller)).length).length =
          (hub.channels (hub.entry caller)).length
        rw [List.take_length]
  | @poll index stream polled there receiving given =>
    intro other member
    rcases List.mem_or_eq_of_mem_set member with old | rfl
    · exact kept other old
    · exact (mirrored stream (List.mem_of_getElem? there)).polled receiving given
  | @close index stream there receiving =>
    intro other member
    rcases List.mem_or_eq_of_mem_set member with old | rfl
    · exact kept other old
    · obtain ⟨actions, subscription, run, sent, items, -⟩ :=
        mirrored stream (List.mem_of_getElem? there)
      refine ⟨actions, subscription, run, sent, items, ?_⟩
      intro still
      contradiction
  | _ => exact kept

/-- In any run every stream of the service is a subscription on the ring of its channel. -/
theorem mirrored_of_reaches {table : Notifications}
    (reached : Reaches step anyStep (start table.rows) hub) : hub.AllMirrored := by
  have keeps : ∀ (s : Realtime) (a : Action) (t : Realtime),
      s.Routed table.rows ∧ s.AllMirrored → anyStep s a → s.step a = some t →
      t.Routed table.rows ∧ t.AllMirrored := by
    intro s a t held _ stepped
    exact ⟨routed_step held.1 stepped, mirrored_step held.1 held.2 stepped⟩
  have none_ : (start table.rows).AllMirrored := by
    intro stream member
    cases member
  exact (reached.invariant keeps ⟨start_routed table, none_⟩).2

end Realtime

/-- A stream serves a gap-free prefix and then, if it lagged, one exact verdict, for every
schedule of broadcasts and reads on a ring of 256. It has served the first `k` events sent since
the subscription and goes on; reading it then gives an error exactly where the next event has
been overwritten. Or it has served them, and after them one error, given when exactly
`k + lost + 256` events had been sent; it then gives nothing more in any run. Every stream of the
service is such a subscription, on the ring of its channel. -/
theorem gap_free_prefix_then_exact_verdict :
    (∀ past actions, ∀ subscription : Subscription channelCapacity,
      Steps Subscription.step anyStep (Subscription.subscribe past) actions subscription →
      (∃ k, Subscription.GoesOn past (Subscription.broadcasts actions) subscription k ∧
        Subscription.GivesNext past (Subscription.broadcasts actions) subscription k ∧
        (subscription.ring.Overwritten (past.length + k) ↔
          k + 256 < (Subscription.broadcasts actions).length)) ∨
      ∃ k lost before later, actions = before ++ .poll :: later ∧
        Subscription.CutOff (Subscription.broadcasts actions) subscription k lost
          (Subscription.broadcasts before).length ∧
        ∀ more final, Steps Subscription.step anyStep subscription more final →
          final.items = subscription.items) ∧
    ∀ (table : Notifications) (hub : Realtime),
      Reaches Realtime.step anyStep (Realtime.start table.rows) hub →
      ∀ stream ∈ hub.streams, hub.Mirrored stream := by
  refine ⟨?_, fun table hub reached => Realtime.mirrored_of_reaches reached⟩
  intro past actions subscription run
  obtain ⟨holds, goesOn | cut⟩ := Subscription.stands_of_steps run
  · obtain ⟨k, goesOn⟩ := goesOn
    exact Or.inl ⟨k, goesOn, goesOn.givesNext holds, Subscription.overwritten_iff holds⟩
  · obtain ⟨k, lost, before, later, split, cut⟩ := cut
    refine Or.inr ⟨k, lost, before, later, split, cut, ?_⟩
    intro more final goesOn
    exact Subscription.ended_steps cut.ended goesOn

/-- A client reads the first of two events, then nothing until 256 more have been sent, and then
twice. -/
def sampleReading : List Subscription.Action :=
  [.broadcast (.deleted [sampleId 1]), .broadcast (.deleted [sampleId 2]), .poll] ++
    List.replicate 256 (.broadcast (.deleted [sampleId 3])) ++ [.poll, .poll]

/-- The subscription `sampleReading` leads to. -/
def sampleSubscription : Subscription channelCapacity :=
  (play Subscription.step (Subscription.subscribe []) sampleReading).get (by decide +kernel)

/-- The client has been served the first event, then the verdict that it has lost one, and nothing
more. -/
theorem gap_free_prefix_then_exact_verdict_sample :
    sampleSubscription.items =
      Subscription.served ((Subscription.broadcasts sampleReading).take 1) ++
        [.error (lagged 1)] := by
  have run : Steps Subscription.step anyStep (Subscription.subscribe []) sampleReading
      sampleSubscription := steps_of_play (Option.some_get _).symm
  have two : sampleSubscription.items.length = 2 := by decide +kernel
  have sent : (Subscription.broadcasts sampleReading).length = 258 := by decide +kernel
  have over_ : sampleSubscription.open_ = none := by decide +kernel
  rcases gap_free_prefix_then_exact_verdict.1 [] sampleReading sampleSubscription run with
    ⟨k, goesOn, -⟩ | ⟨k, lost, before, later, -, cut, -⟩
  · exact absurd (goesOn.open_.symm.trans over_) (Option.some_ne_none _)
  · have capacity : channelCapacity = 256 := rfl
    have inside := cut.inside
    have some_ := cut.some_
    have exact_ := cut.exact
    have length := congrArg List.length cut.items
    rw [two, List.length_append, List.length_singleton, Subscription.served, List.length_map,
      List.length_take] at length
    obtain rfl : k = 1 := by omega
    obtain rfl : lost = 1 := by omega
    exact cut.items

end SvcNotifier
