import SvcNotifier.Streams

/-!
# What is pushed to the ring of an open stream

Whatever fails, an open stream is on the channel that is registered for its recipient, and its
ring holds the event of every signal of its recipient that has come to one since it was opened:
each once, in the order of the dispatches, and nothing else. Streams open and close between any
two calls of a dispatch, and a dispatch may hold a sender meanwhile.
-/

namespace SvcNotifier

open Library Program

/-- The event that a signal has come to. -/
def Fate.event : Fate → Option ClientEvent
  | .sent event => some event
  | _ => none

/-- The signal was dispatched to its end: its recipient was not skipped, and had a channel. -/
def Fate.Attended : Fate → Prop
  | .inactive => False
  | .unregistered => False
  | _ => True

/-- The events that dispatched signals have come to. -/
def yielded (dispatched : List Dispatched) : List ClientEvent :=
  dispatched.filterMap fun entry => entry.fate.event

/-- The events of two lists together. -/
theorem yielded_append (before after : List Dispatched) :
    yielded (before ++ after) = yielded before ++ yielded after :=
  List.filterMap_append

namespace Realtime

variable {hub after : Realtime} {stream : Stream} {initial : List Row}

/-- An open stream: every signal of its recipient that has been dispatched since it was opened
was dispatched to its end, and its ring holds exactly their events. -/
structure Fed (hub : Realtime) (stream : Stream) : Prop where
  /-- So many signals had been dispatched when it was opened. -/
  opened : stream.since ≤ hub.dispatched.length
  /-- What it is due was dispatched to its end. -/
  attended : ∀ entry ∈ hub.due stream, entry.fate.Attended
  /-- What was sent on its channel since is what that yields. -/
  ring : (hub.channels stream.channel).drop stream.start = yielded (hub.due stream)

/-- Every open stream. -/
def AllFed (hub : Realtime) : Prop :=
  ∀ stream ∈ hub.streams, stream.receiving = true → hub.Fed stream

/-- A ring that grows by what the dispatches since have come to. -/
theorem Fed.grows (fed : hub.Fed stream) (reads : hub.Reads stream) {more : List Dispatched}
    (dispatched : after.dispatched = hub.dispatched ++ more)
    (attended : ∀ entry ∈ more, entry.signal.recipientId = stream.recipientId →
      entry.fate.Attended)
    (channel : after.channels stream.channel = hub.channels stream.channel ++
      yielded (more.filter fun entry => entry.signal.recipientId == stream.recipientId)) :
    after.Fed stream := by
  have inside := reads.inside
  have started := reads.started
  have due := due_append fed.opened dispatched
  refine ⟨?_, ?_, ?_⟩
  · rw [dispatched, List.length_append]
    have opened := fed.opened
    omega
  · intro entry member
    rw [due, List.mem_append] at member
    rcases member with old | new
    · exact fed.attended entry old
    · have own := List.mem_filter.mp new
      exact attended entry own.1 (beq_iff_eq.mp own.2)
  · have whole : stream.start ≤ (hub.channels stream.channel).length := by omega
    rw [channel, due, yielded_append, List.drop_append_of_le_length whole, fed.ring]

/-- A hub on which every ring has grown by what was dispatched. -/
theorem AllFed.goesOn (fed : hub.AllFed) (routed : hub.Routed initial)
    (streams : after.streams = hub.streams) {more : List Dispatched}
    (dispatched : after.dispatched = hub.dispatched ++ more)
    (heard : ∀ stream ∈ hub.streams, stream.receiving = true →
      (∀ entry ∈ more, entry.signal.recipientId = stream.recipientId → entry.fate.Attended) ∧
      after.channels stream.channel = hub.channels stream.channel ++
        yielded (more.filter fun entry => entry.signal.recipientId == stream.recipientId)) :
    after.AllFed := by
  intro stream member receiving
  rw [streams] at member
  obtain ⟨attended, channel⟩ := heard stream member receiving
  exact (fed stream member receiving).grows (routed.reads stream member) dispatched attended channel

/-- A hub on which nothing has been sent or dispatched. -/
theorem AllFed.aside (fed : hub.AllFed) (routed : hub.Routed initial)
    (channels : after.channels = hub.channels) (streams : after.streams = hub.streams)
    (dispatched : after.dispatched = hub.dispatched) : after.AllFed := by
  have nothing : after.dispatched = hub.dispatched ++ [] := by rw [dispatched, List.append_nil]
  apply fed.goesOn routed streams nothing
  intro stream member receiving
  constructor
  · intro entry absent
    contradiction
  · rw [channels]
    exact (List.append_nil _).symm

/-- A signal that comes to no event, and that is skipped only where nobody watches. -/
theorem AllFed.recorded (fed : hub.AllFed) (routed : hub.Routed initial)
    {signal : NotificationSignal} {fate : Fate} (channels : after.channels = hub.channels)
    (streams : after.streams = hub.streams)
    (dispatched : after.dispatched = hub.dispatched ++ [⟨signal, fate, hub.store.rows⟩])
    (silent : fate.event = none) (unwatched : fate.Attended ∨ ¬ hub.Watched signal.recipientId) :
    after.AllFed := by
  apply fed.goesOn routed streams dispatched
  intro stream member receiving
  constructor
  · intro entry inside own
    rw [List.mem_singleton.mp inside] at own ⊢
    rcases unwatched with attended | nobody
    · exact attended
    · exact absurd ⟨stream, member, receiving, own.symm⟩ nobody
  · rw [channels]
    have nothing : yielded ([⟨signal, fate, hub.store.rows⟩].filter fun entry =>
        entry.signal.recipientId == stream.recipientId) = [] := by
      unfold yielded
      rw [List.filterMap_eq_nil_iff]
      intro entry inside
      rw [List.mem_singleton.mp (List.mem_filter.mp inside).1]
      exact silent
    rw [nothing, List.append_nil]

/-- Whatever a call decides feeds every open stream. -/
theorem AllFed.decided (fed : hub.AllFed) (routed : hub.Routed initial)
    {failure : Option SqlxError} {signal : NotificationSignal} {stand later : Stand}
    (decides : hub.Decides failure signal stand later after) : after.AllFed := by
  have wired := routed.wired
  cases decides with
  | active => exact fed
  | found isAdded member owned content => exact fed
  | registered found => exact fed
  | inactive unwatched => exact fed.recorded routed rfl rfl rfl rfl (Or.inr unwatched)
  | unregistered unwatched => exact fed.recorded routed rfl rfl rfl rfl (Or.inr unwatched)
  | gone isAdded absent => exact fed.recorded routed rfl rfl rfl rfl (Or.inl trivial)
  | failed isAdded at_ failing => exact fed.recorded routed rfl rfl rfl rfl (Or.inl trivial)
  | @sent channel event found due =>
    obtain ⟨-, -, streams, dispatched, -⟩ := push_keeps hub channel event
    have more : ((hub.push channel event).record signal (.sent event)).dispatched =
        hub.dispatched ++ [⟨signal, .sent event, (hub.push channel event).store.rows⟩] := by
      rw [record, dispatched]
    have same : ((hub.push channel event).record signal (.sent event)).streams = hub.streams :=
      streams
    apply fed.goesOn routed same more
    intro stream member receiving
    constructor
    · intro entry inside _
      rw [List.mem_singleton.mp inside]
      trivial
    · show (hub.push channel event).channels stream.channel = _
      rw [wired.pushed found event member receiving, List.filter_singleton]
      by_cases mine : signal.recipientId = stream.recipientId
      · rw [if_pos mine, beq_iff_eq.mpr mine]
        rfl
      · rw [if_neg mine, beq_eq_false_iff_ne.mpr mine]
        rfl

/-- A stream that goes on or ends where it stands. -/
theorem AllFed.setStream (fed : hub.AllFed) {index : Nat} {later : Stream}
    (goesOn : later.receiving = true → hub.Fed later) : (hub.setStream index later).AllFed := by
  intro other inside receiving
  have still : hub.Fed other := by
    rcases List.mem_or_eq_of_mem_set inside with old | same
    · exact fed other old receiving
    · rw [same] at receiving ⊢
      exact goesOn receiving
  exact ⟨still.opened, still.attended, still.ring⟩

/-- A new stream is fed, since it is due nothing yet. -/
theorem AllFed.subscribe (fed : hub.AllFed) (recipientId : Uuid) :
    (hub.subscribe recipientId).AllFed := by
  intro stream member receiving
  rcases List.mem_append.mp member with old | new
  · have still := fed stream old receiving
    exact ⟨still.opened, still.attended, still.ring⟩
  · rw [List.mem_singleton] at new
    subst new
    have due := hub.due_opening recipientId
    refine ⟨Nat.le_refl _, ?_, ?_⟩
    · rw [due]
      intro entry absent
      contradiction
    · rw [due]
      exact List.drop_length

/-- Every step feeds every open stream. -/
theorem allFed_step {action : Action} (fed : hub.AllFed) (routed : hub.Routed initial)
    (stepped : hub.step action = some after) : after.AllFed := by
  cases moves_of_step stepped with
  | database moved => exact fed.aside routed rfl rfl rfl
  | relisten idle => exact fed.aside routed rfl rfl rfl
  | receive idle notified => exact fed.aside routed rfl rfl rfl
  | @run failure signal request next at_ =>
    obtain ⟨stand, later, -, decides, -⟩ :=
      routed.dispatching.performed routed.sound routed.rooted routed.wired failure at_
    have still := fed.decided routed decides
    intro stream member receiving
    have kept := still stream member receiving
    exact ⟨kept.opened, kept.attended, kept.ring⟩
  | finish at_ => exact fed.aside routed rfl rfl rfl
  | opens accepted => exact fed.subscribe _
  | refuses refused => exact fed
  | @poll index stream polled there receiving given =>
    have still := fed stream (List.mem_of_getElem? there) receiving
    obtain ⟨-, -, -, -, ⟨event, received, rfl⟩ | ⟨lost, received, rfl⟩⟩ :=
      routed.polled there receiving given
    · exact fed.setStream fun _ => ⟨still.opened, still.attended, still.ring⟩
    · apply fed.setStream
      intro open_
      contradiction
  | close there receiving =>
    apply fed.setStream
    intro open_
    contradiction

/-- Every run feeds every open stream. -/
theorem allFed_of_reaches {table : Notifications}
    (reached : Reaches step anyStep (start table.rows) hub) : hub.AllFed := by
  have keeps : ∀ (s : Realtime) (a : Action) (t : Realtime), s.Routed table.rows ∧ s.AllFed →
      anyStep s a → s.step a = some t → t.Routed table.rows ∧ t.AllFed := by
    intro s a t held _ stepped
    exact ⟨routed_step held.1 stepped, allFed_step held.2 held.1 stepped⟩
  have nobody : (start table.rows).AllFed := by
    intro stream absent
    contradiction
  exact (reached.invariant keeps ⟨start_routed table, nobody⟩).2

/-! ## One dispatch -/

/-- The dispatch of a signal adds one entry to those before it, when it settles the signal. -/
def Settling (before : List Dispatched) (taken : NotificationSignal) (hub : Realtime) : Prop :=
  hub.Stands fun signal stand => signal = taken ∧
    (stand ≠ .settled → hub.dispatched = before) ∧
    (stand = .settled → ∃ entry, hub.dispatched = before ++ [entry] ∧ entry.signal = taken)

/-- A signal that has just been taken is to be settled. -/
theorem settling_of_receive {signal : NotificationSignal}
    (notified : hub.store.log[hub.position]? = some signal) :
    Settling hub.dispatched signal
      { hub with position := hub.position + 1, dispatching := some (signal, dispatch signal) } := by
  have fits : Realtime.Fits { hub with position := hub.position + 1 } signal .undecided := trivial
  have kept : signal = signal ∧ (Stand.undecided ≠ .settled → hub.dispatched = hub.dispatched) ∧
      (Stand.undecided = .settled →
        ∃ entry, hub.dispatched = hub.dispatched ++ [entry] ∧ entry.signal = signal) := by
    refine ⟨rfl, fun _ => rfl, fun settled => ?_⟩
    contradiction
  exact stands_resume (List.mem_of_getElem? notified) (dispatch_ensures signal) fits kept

/-- Every step but the taking of another signal settles the signal at most once. -/
theorem settling_step {action : Action} {before : List Dispatched} {taken : NotificationSignal}
    (settling : Settling before taken hub) (routed : hub.Routed initial)
    (busy : action ≠ .receive) (stepped : hub.step action = some after) :
    Settling before taken after := by
  have same : hub.store.log ⊆ hub.store.log := List.Subset.refl _
  have still : hub.store.history ⊆ hub.store.history := List.Subset.refl _
  cases moves_of_step stepped with
  | database moved =>
    exact settling.moves rfl (Store.log_grows moved).subset (Store.history_grows moved).subset
      (fun _ _ registered => registered) fun _ _ held => held
  | relisten idle =>
    exact settling.moves rfl same still (fun _ _ registered => registered) fun _ _ held => held
  | receive idle notified => contradiction
  | @run failure signal request next at_ =>
    obtain ⟨stand, later, held, decides, goesOn⟩ :=
      settling.performed routed.sound routed.rooted routed.wired failure at_
    obtain ⟨own, pending, settled⟩ := held
    have unsettled := pending decides.open_
    apply goesOn
    refine ⟨own, ?_, ?_⟩
    · intro open_
      rcases decides.dispatched with ⟨fate, closed, recorded⟩ | ⟨-, nothing⟩
      · contradiction
      · exact nothing.trans unsettled
    · intro closed
      rcases decides.dispatched with ⟨fate, -, recorded⟩ | ⟨open_, nothing⟩
      · rw [unsettled] at recorded
        exact ⟨_, recorded, own⟩
      · contradiction
  | finish at_ =>
    intro signal program found
    contradiction
  | @opens ctx caller accepted =>
    exact settling.moves rfl same still
      (fun _ _ registered => subscribe_registry caller registered) fun _ _ held => held
  | refuses refused => exact settling
  | poll there receiving given =>
    exact settling.moves rfl same still (fun _ _ registered => registered) fun _ _ held => held
  | close there receiving =>
    exact settling.moves rfl same still (fun _ _ registered => registered) fun _ _ held => held

/-- A dispatch that has returned has settled its signal, once. -/
theorem settled_once {table : Notifications} {busy : Realtime} {signal : NotificationSignal}
    (reached : Reaches step anyStep (start table.rows) hub)
    (taken : hub.step .receive = some busy)
    (run : Reaches step (fun _ action => action ≠ .receive) busy after)
    (returned : after.dispatching = some (signal, .done ⟨⟩)) :
    ∃ entry, after.dispatched = hub.dispatched ++ [entry] ∧ entry.signal = signal ∧
      entry.Accounted := by
  have routed := routed_of_reaches reached
  cases moves_of_step taken with
  | @receive first idle notified =>
    have keeps : ∀ (s : Realtime) (a : Action) (t : Realtime),
        s.Routed table.rows ∧ Settling hub.dispatched first s → a ≠ .receive →
        s.step a = some t → t.Routed table.rows ∧ Settling hub.dispatched first t := by
      intro s a t held busy stepped
      exact ⟨routed_step held.1 stepped, settling_step held.2 held.1 busy stepped⟩
    have begun := settling_of_receive notified
    obtain ⟨later, settling⟩ := run.invariant keeps ⟨routed_step routed taken, begun⟩
    obtain ⟨-, stand, ended, -, own, -, settled⟩ := settling _ _ returned
    obtain ⟨entry, recorded, same⟩ := settled ended
    refine ⟨entry, recorded, same.trans own.symm, later.accounted entry ?_⟩
    rw [recorded]
    exact List.mem_append_right _ List.mem_cons_self

end Realtime

end SvcNotifier
