import SvcNotifier.Routing

/-!
# What a stream is due

Every signal of a recipient that is dispatched while a stream of theirs is open is accounted
for: its event is in the stream's ring, in the order of the dispatches, or its row was gone by
the re-read. So what a stream has served is what it was due, up to where it is, with a verdict
at the end if it fell behind. The one exception is a re-read that fails: it is logged, and the
streams of its recipient go on without it.
-/

namespace SvcNotifier

open Library Program

/-- The events that dispatched signals come to, up to the first that was passed over. A signal
whose row was gone comes to none. -/
def reckoned : List Dispatched → List ClientEvent
  | [] => []
  | entry :: rest => match entry.fate with
    | .sent event => event :: reckoned rest
    | .gone => reckoned rest
    | _ => []

/-- A signal has been passed over. -/
def broken : List Dispatched → Bool
  | [] => false
  | entry :: rest => match entry.fate with
    | .sent _ => broken rest
    | .gone => broken rest
    | _ => true

/-- Reckoning goes on where nothing has been passed over. -/
theorem reckoned_append (before after : List Dispatched) (whole : broken before = false) :
    reckoned (before ++ after) = reckoned before ++ reckoned after := by
  induction before with
  | nil => rfl
  | cons entry rest ih =>
    obtain ⟨signal, fate, rows⟩ := entry
    cases fate with
    | sent event => exact congrArg (event :: ·) (ih whole)
    | gone => exact ih whole
    | _ => contradiction

/-- More dispatches never take back what has been reckoned. -/
theorem reckoned_grows (before after : List Dispatched) :
    reckoned before <+: reckoned (before ++ after) := by
  induction before with
  | nil => exact List.nil_prefix
  | cons entry rest ih =>
    obtain ⟨signal, fate, rows⟩ := entry
    cases fate with
    | sent event => exact (List.cons_prefix_cons).mpr ⟨rfl, ih⟩
    | gone => exact ih
    | _ => exact List.nil_prefix

/-- What is passed over in either part is passed over. -/
theorem broken_append (before after : List Dispatched) :
    broken (before ++ after) = (broken before || broken after) := by
  induction before with
  | nil => rfl
  | cons entry rest ih =>
    obtain ⟨signal, fate, rows⟩ := entry
    cases fate with
    | sent event => exact ih
    | gone => exact ih
    | _ => rfl

/-- Where no signal was passed over, the event of each was sent or its row was gone. -/
theorem fate_of_whole {entries : List Dispatched} (whole : broken entries = false)
    {entry : Dispatched} (member : entry ∈ entries) :
    (∃ event, entry.fate = .sent event ∧ event ∈ reckoned entries) ∨ entry.fate = .gone := by
  induction entries with
  | nil => contradiction
  | cons first rest ih =>
    obtain ⟨signal, fate, rows⟩ := first
    cases fate with
    | sent event =>
      rcases List.mem_cons.mp member with rfl | later
      · exact Or.inl ⟨event, rfl, List.mem_cons_self⟩
      · exact (ih whole later).imp
          (fun ⟨event, same, inside⟩ => ⟨event, same, List.mem_cons_of_mem _ inside⟩) id
    | gone =>
      rcases List.mem_cons.mp member with rfl | later
      · exact Or.inr rfl
      · exact ih whole later
    | _ => contradiction

namespace Realtime

/-- The signals of a stream's recipient dispatched since it was opened. -/
def due (hub : Realtime) (stream : Stream) : List Dispatched :=
  (hub.dispatched.drop stream.since).filter fun entry =>
    entry.signal.recipientId == stream.recipientId

/-- Reading a stream gives the client an item; the stream then goes on, or has ended. -/
def Gives (hub : Realtime) (index : Nat) (item : Except EdgeError NotifierNotificationEvent)
    (goesOn : Bool) : Prop :=
  ∃ stream after polled, hub.streams[index]? = some stream ∧ hub.step (.poll index) = some after ∧
    after.streams[index]? = some polled ∧ polled.items = stream.items ++ [item] ∧
    polled.receiving = goesOn

/-- A stream never skips a fact and carries on. -/
structure NeverSkips (hub : Realtime) (index : Nat) (stream : Stream) : Prop where
  /-- What became of each signal it was due is known: in particular the event sent is the
  signal's own, and a row that was gone was not in the table. -/
  accounted : ∀ entry ∈ hub.due stream, entry.Accounted
  /-- It has served the events it was due, in order and up to the first that was passed over,
  and after them at most one verdict, which ends it. -/
  inOrder : ∃ events verdict,
    stream.items = events.map (fun event => .ok (intoUnion event)) ++ verdict ∧
    events <+: reckoned (hub.due stream) ∧
    (verdict = [] ∨ stream.receiving = false ∧ ∃ error, verdict = [.error error])
  /-- While it is open, it serves next the next event it is due, or ends on the lag verdict. -/
  served : stream.receiving = true → ∀ event,
    (reckoned (hub.due stream))[stream.items.length]? = some event →
    hub.Gives index (.ok (intoUnion event)) true ∨
      ∃ lost, hub.Gives index (.error (lagged lost)) false
  /-- Where a signal was passed over, it ends on a verdict once it has served what came before. -/
  ended : stream.receiving = true → broken (hub.due stream) = true →
    (reckoned (hub.due stream)).length ≤ stream.items.length →
    ∃ error, hub.Gives index (.error error) false

/-- A step after which the listener still has every signal: its connection does not drop. -/
def Listens (_ : Realtime) (action : Action) : Prop := action ≠ .relisten

/-- A step that loses no fact of anybody who listens: the listener's connection does not drop,
and where the row of an `Added` is re-read for a recipient with an open stream, nothing fails
the re-read and the row is not corrupt. -/
def Heard (hub : Realtime) (action : Action) : Prop :=
  action ≠ .relisten ∧ ∀ failure signal recipientId id next, action = .run failure →
    hub.dispatching = some (signal, .call (.readNotificationFor recipientId id) next) →
    hub.Watched recipientId → failure = none ∧
      ∀ row ∈ hub.store.rows, row.owned = (recipientId, id) →
        ∃ notification, Notification.fromRow row = .ok notification

variable {hub after : Realtime} {stream : Stream} {initial : List Row}

/-! ## The stream against what it is due -/

/-- An open stream: its ring holds what it is due, and nothing has been passed over. -/
structure Live (hub : Realtime) (stream : Stream) : Prop where
  /-- So many signals had been dispatched when it was opened. -/
  opened : stream.since ≤ hub.dispatched.length
  /-- Nothing that it is due was passed over. -/
  whole : broken (hub.due stream) = false
  /-- What was sent on its channel since is what it is due. -/
  ring : (hub.channels stream.channel).drop stream.start = reckoned (hub.due stream)

/-- A stream that has ended: its receiver had taken some of what it was due, in order. -/
structure Ended (hub : Realtime) (stream : Stream) : Prop where
  /-- So many signals had been dispatched when it was opened. -/
  opened : stream.since ≤ hub.dispatched.length
  /-- It had taken a beginning of what it is due. -/
  taken : hub.taken stream <+: reckoned (hub.due stream)

/-- What the receiver of an open stream has taken is the beginning of what it is due. -/
theorem Live.taken (live : hub.Live stream) : hub.taken stream <+: reckoned (hub.due stream) := by
  rw [← live.ring, Realtime.taken, List.drop_take]
  exact List.take_prefix _ _

/-- What holds of a hub while no fact is lost. -/
structure Faithful (initial : List Row) (hub : Realtime) : Prop where
  /-- The dispatches and the streams are in order. -/
  routed : hub.Routed initial
  /-- An open stream misses nothing. -/
  live : ∀ stream ∈ hub.streams, stream.receiving = true → hub.Live stream
  /-- A stream that has ended had missed nothing until then. -/
  ended : ∀ stream ∈ hub.streams, stream.receiving = false → hub.Ended stream

/-- A hub just started is faithful. -/
theorem start_faithful (table : Notifications) : (start table.rows).Faithful table.rows :=
  ⟨start_routed table, by simp [start], by simp [start]⟩

/-- Reading an open stream that has something to give. -/
theorem gives_of_poll {index : Nat} (there : hub.streams[index]? = some stream)
    (receiving : stream.receiving = true) {polled : Stream}
    (given : hub.pollStream stream = some polled)
    {item : Except EdgeError NotifierNotificationEvent}
    (items : polled.items = stream.items ++ [item]) :
    hub.Gives index item polled.receiving := by
  have bound : index < hub.streams.length := (List.getElem?_eq_some_iff.mp there).1
  refine ⟨stream, hub.setStream index polled, polled, there, ?_, ?_, items, rfl⟩
  · simp [step, there, receiving, given]
  · simp [setStream, bound]

/-- While no fact is lost, no stream skips one. -/
theorem Faithful.neverSkips (faithful : hub.Faithful initial) {index : Nat}
    (there : hub.streams[index]? = some stream) : hub.NeverSkips index stream := by
  have member : stream ∈ hub.streams := List.mem_of_getElem? there
  have reads := faithful.routed.reads stream member
  have accounted : ∀ entry ∈ hub.due stream, entry.Accounted := by
    intro entry inside
    apply faithful.routed.accounted entry
    exact List.mem_of_mem_drop (List.mem_filter.mp inside).1
  obtain ⟨verdict, items, tail⟩ := reads.items
  cases receiving : stream.receiving with
  | false =>
    have ended := faithful.ended stream member receiving
    refine ⟨accounted, ⟨_, verdict, items, ended.taken, tail⟩, ?_, ?_⟩
    · intro open_
      rw [receiving] at open_
      contradiction
    · intro open_
      rw [receiving] at open_
      contradiction
  | true =>
    have live := faithful.live stream member receiving
    refine ⟨accounted, ⟨_, verdict, items, live.taken, tail⟩, ?_, ?_⟩
    · intro _ event expected
      have started := reads.started
      rw [reads.items_open receiving, List.length_map, reads.length, ← live.ring,
        List.getElem?_drop] at expected
      have position : stream.start + (stream.next - stream.start) = stream.next := by omega
      rw [position] at expected
      cases received : receive channelCapacity (hub.channels stream.channel) stream.next with
      | value first =>
        have same : first = event :=
          Option.some.inj ((receive_value received).1.symm.trans expected)
        have given : hub.pollStream stream = some (stream.serve event) := by
          rw [pollStream, received, same]
        left
        rw [← receiving]
        exact gives_of_poll there receiving given rfl
      | lagged lost =>
        have given : hub.pollStream stream = some (stream.endOn (lagged lost)) := by
          rw [pollStream, received]
        exact Or.inr ⟨lost, gives_of_poll there receiving given rfl⟩
      | pending =>
        have behind := receive_pending received
        rw [List.getElem?_eq_none_iff.mpr behind] at expected
        contradiction
    · intro _ passed
      rw [live.whole] at passed
      contradiction

/-! ## Steps -/

/-- What more dispatches add to what a stream is due. -/
theorem due_append {more : List Dispatched} (opened : stream.since ≤ hub.dispatched.length)
    (dispatched : after.dispatched = hub.dispatched ++ more) :
    after.due stream = hub.due stream ++ more.filter fun entry =>
      entry.signal.recipientId == stream.recipientId := by
  rw [due, due, dispatched, List.drop_append_of_le_length opened, List.filter_append]

/-- A stream that has ended stays as it ended, whatever is dispatched later. -/
theorem Ended.grows (ended : hub.Ended stream) (reads : hub.Reads stream)
    {more : List Dispatched} (dispatched : after.dispatched = hub.dispatched ++ more)
    (grown : hub.channels stream.channel <+: after.channels stream.channel) :
    after.Ended stream := by
  constructor
  · rw [dispatched, List.length_append]
    exact Nat.le_add_right_of_le ended.opened
  · rw [taken_grows reads.inside grown, due_append ended.opened dispatched]
    exact ended.taken.trans (reckoned_grows _ _)

/-- An open stream whose ring grows by what the dispatches since come to. -/
theorem Live.grows (live : hub.Live stream) (reads : hub.Reads stream) {more : List Dispatched}
    (dispatched : after.dispatched = hub.dispatched ++ more)
    (whole : broken (more.filter fun entry =>
      entry.signal.recipientId == stream.recipientId) = false)
    (channel : after.channels stream.channel = hub.channels stream.channel ++
      reckoned (more.filter fun entry => entry.signal.recipientId == stream.recipientId)) :
    after.Live stream := by
  have inside := reads.inside
  have started := reads.started
  refine ⟨?_, ?_, ?_⟩
  · rw [dispatched, List.length_append]
    exact Nat.le_add_right_of_le live.opened
  · rw [due_append live.opened dispatched, broken_append, live.whole, whole]
    rfl
  · rw [channel, due_append live.opened dispatched, reckoned_append _ _ live.whole,
      List.drop_append_of_le_length (by omega), live.ring]

/-- A hub on which the ring of every open stream has grown by what was dispatched. -/
theorem Faithful.goesOn (faithful : hub.Faithful initial) (routed : after.Routed initial)
    (streams : after.streams = hub.streams) {more : List Dispatched}
    (dispatched : after.dispatched = hub.dispatched ++ more)
    (grown : ∀ stream ∈ hub.streams, hub.channels stream.channel <+: after.channels stream.channel)
    (heard : ∀ stream ∈ hub.streams, stream.receiving = true →
      broken (more.filter fun entry =>
        entry.signal.recipientId == stream.recipientId) = false ∧
      after.channels stream.channel = hub.channels stream.channel ++
        reckoned (more.filter fun entry => entry.signal.recipientId == stream.recipientId)) :
    after.Faithful initial := by
  refine ⟨routed, ?_, ?_⟩
  · rw [streams]
    intro stream member receiving
    obtain ⟨whole, channel⟩ := heard stream member receiving
    exact (faithful.live stream member receiving).grows (faithful.routed.reads stream member)
      dispatched whole channel
  · rw [streams]
    intro stream member closed
    exact (faithful.ended stream member closed).grows (faithful.routed.reads stream member)
      dispatched (grown stream member)

/-- A hub that differs only in the database and in the dispatch under way. -/
theorem Faithful.aside (faithful : hub.Faithful initial) (routed : after.Routed initial)
    (channels : after.channels = hub.channels) (streams : after.streams = hub.streams)
    (dispatched : after.dispatched = hub.dispatched) : after.Faithful initial := by
  have nothing : after.dispatched = hub.dispatched ++ [] := by rw [dispatched, List.append_nil]
  apply faithful.goesOn routed streams nothing
  · intro stream member
    rw [channels]
  · intro stream member receiving
    refine ⟨rfl, ?_⟩
    rw [channels]
    exact (List.append_nil _).symm

/-- The fate of a signal that nobody watches for, or whose row is gone. -/
theorem Faithful.recorded (faithful : hub.Faithful initial) (routed : after.Routed initial)
    {signal : NotificationSignal} {fate : Fate}
    (channels : after.channels = hub.channels) (streams : after.streams = hub.streams)
    (dispatched : after.dispatched = hub.dispatched ++ [⟨signal, fate, hub.store.rows⟩])
    (unheard : hub.Watched signal.recipientId → fate = .gone) : after.Faithful initial := by
  apply faithful.goesOn routed streams dispatched
  · intro stream member
    rw [channels]
  · intro stream member receiving
    rw [channels]
    by_cases own : signal.recipientId = stream.recipientId
    · obtain rfl := unheard ⟨stream, member, receiving, own.symm⟩
      rw [List.filter_singleton, beq_iff_eq.mpr own]
      exact ⟨rfl, (List.append_nil _).symm⟩
    · rw [List.filter_singleton, beq_eq_false_iff_ne.mpr own]
      exact ⟨rfl, (List.append_nil _).symm⟩

/-- What a call decides loses no fact, as long as no re-read fails for somebody who listens. -/
theorem Faithful.decided (faithful : hub.Faithful initial) {failure : Option SqlxError}
    {signal : NotificationSignal} (heard : hub.Heard (.run failure))
    {stand later : Stand} (decides : hub.Decides failure signal stand later after)
    {dispatching : Option (NotificationSignal × Dispatch)}
    (routed : (after.resume dispatching).Routed initial) :
    (after.resume dispatching).Faithful initial := by
  have wired := faithful.routed.wired
  cases decides with
  | active => exact faithful.aside routed rfl rfl rfl
  | found isAdded member owned content => exact faithful.aside routed rfl rfl rfl
  | registered found => exact faithful.aside routed rfl rfl rfl
  | inactive unwatched =>
    exact faithful.recorded routed rfl rfl rfl fun watched => absurd watched unwatched
  | unregistered unwatched =>
    exact faithful.recorded routed rfl rfl rfl fun watched => absurd watched unwatched
  | gone isAdded absent => exact faithful.recorded routed rfl rfl rfl fun _ => rfl
  | @failed id error next isAdded at_ failing =>
    apply faithful.recorded routed rfl rfl rfl
    intro watched
    obtain ⟨rfl, sound⟩ := heard.2 failure signal _ id next rfl at_ watched
    obtain ⟨row, member, owned, error, corrupted⟩ := reread_error failing
    obtain ⟨notification, fine⟩ := sound row member owned
    rw [corrupted] at fine
    contradiction
  | @sent channel event found due =>
    obtain ⟨-, -, streams, dispatched, -⟩ := push_keeps hub channel event
    obtain ⟨others, own⟩ := push_channels hub channel event
    have more : (hub.push channel event).dispatched ++
        [⟨signal, .sent event, (hub.push channel event).store.rows⟩] =
          hub.dispatched ++ [⟨signal, .sent event, (hub.push channel event).store.rows⟩] := by
      rw [dispatched]
    refine faithful.goesOn routed streams more ?_ ?_
    · intro stream member
      show hub.channels stream.channel <+: (hub.push channel event).channels stream.channel
      by_cases here : stream.channel = channel
      · rw [here, own]
        exact List.prefix_append _ _
      · rw [others _ here]
    · intro stream member receiving
      show _ ∧ (hub.push channel event).channels stream.channel = _
      rw [wired.pushed found event member receiving, List.filter_singleton]
      by_cases mine : signal.recipientId = stream.recipientId
      · rw [if_pos mine, beq_iff_eq.mpr mine]
        exact ⟨rfl, rfl⟩
      · rw [if_neg mine, beq_eq_false_iff_ne.mpr mine]
        exact ⟨rfl, rfl⟩

/-- A stream that goes on or ends where it stands. -/
theorem Faithful.setStream (faithful : hub.Faithful initial) {index : Nat} {later : Stream}
    (routed : (hub.setStream index later).Routed initial)
    (goesOn : later.receiving = true → hub.Live later)
    (ends : later.receiving = false → hub.Ended later) :
    (hub.setStream index later).Faithful initial := by
  refine ⟨routed, ?_, ?_⟩
  · intro other inside open_
    have live : hub.Live other := by
      rcases List.mem_or_eq_of_mem_set inside with old | rfl
      · exact faithful.live other old open_
      · exact goesOn open_
    exact ⟨live.opened, live.whole, live.ring⟩
  · intro other inside closed
    have ended : hub.Ended other := by
      rcases List.mem_or_eq_of_mem_set inside with old | rfl
      · exact faithful.ended other old closed
      · exact ends closed
    exact ⟨ended.opened, ended.taken⟩

/-- A new stream is due nothing yet. -/
theorem due_opening (hub : Realtime) (recipientId : Uuid) :
    (hub.subscribe recipientId).due (hub.opening recipientId (hub.entry recipientId)) = [] := by
  show ((hub.dispatched.drop hub.dispatched.length).filter _) = []
  rw [List.drop_length]
  rfl

/-- A new stream keeps a hub faithful. -/
theorem Faithful.subscribe (faithful : hub.Faithful initial) (recipientId : Uuid) :
    (hub.subscribe recipientId).Faithful initial := by
  refine ⟨faithful.routed.subscribe recipientId, ?_, ?_⟩
  · intro stream member receiving
    rcases List.mem_append.mp member with old | new
    · have live := faithful.live stream old receiving
      exact ⟨live.opened, live.whole, live.ring⟩
    · rw [List.mem_singleton] at new
      subst new
      have due := hub.due_opening recipientId
      refine ⟨Nat.le_refl _, by rw [due]; rfl, ?_⟩
      rw [due]
      exact List.drop_length
  · intro stream member closed
    rcases List.mem_append.mp member with old | new
    · have ended := faithful.ended stream old closed
      exact ⟨ended.opened, ended.taken⟩
    · rw [List.mem_singleton] at new
      subst new
      contradiction

/-- Every step that loses no fact keeps the hub faithful. -/
theorem faithful_step {action : Action} (faithful : hub.Faithful initial)
    (heard : hub.Heard action) (stepped : hub.step action = some after) :
    after.Faithful initial := by
  have routed := routed_step faithful.routed stepped
  cases moves_of_step stepped with
  | database moved => exact faithful.aside routed rfl rfl rfl
  | relisten idle => exact absurd rfl heard.1
  | receive idle notified => exact faithful.aside routed rfl rfl rfl
  | @run failure signal request next at_ =>
    have before := faithful.routed
    obtain ⟨stand, later, -, decides, -⟩ :=
      before.dispatching.performed before.sound before.rooted before.wired failure at_
    exact faithful.decided heard decides routed
  | finish at_ => exact faithful.aside routed rfl rfl rfl
  | opens accepted => exact faithful.subscribe _
  | refuses refused => exact faithful
  | @poll index stream polled there receiving given =>
    have live := faithful.live stream (List.mem_of_getElem? there) receiving
    obtain ⟨-, -, -, -, ⟨event, received, rfl⟩ | ⟨lost, received, rfl⟩⟩ :=
      faithful.routed.polled there receiving given
    · apply faithful.setStream routed
      · exact fun _ => ⟨live.opened, live.whole, live.ring⟩
      · intro closed
        rw [show (stream.serve event).receiving = stream.receiving from rfl, receiving] at closed
        contradiction
    · apply faithful.setStream routed
      · intro open_
        contradiction
      · exact fun _ => ⟨live.opened, live.taken⟩
  | @close index stream there receiving =>
    have live := faithful.live stream (List.mem_of_getElem? there) receiving
    apply faithful.setStream routed
    · intro open_
      contradiction
    · exact fun _ => ⟨live.opened, live.taken⟩

/-- Every hub that a run without loss reaches from a table is faithful. -/
theorem faithful_of_reaches {table : Notifications}
    (reached : Reaches step Heard (start table.rows) hub) : hub.Faithful table.rows :=
  reached.invariant (fun _ _ _ faithful heard stepped => faithful_step faithful heard stepped)
    (start_faithful table)

end Realtime

/-- An open stream never skips a fact and carries on, in any run in which the listener's
connection does not drop and no re-read fails for somebody who has a stream open. -/
theorem stream_never_skips (table : Notifications) (hub : Realtime)
    (reached : Reaches Realtime.step Realtime.Heard (Realtime.start table.rows) hub) :
    ∀ index stream, hub.streams[index]? = some stream → hub.NeverSkips index stream :=
  fun _ _ there => (Realtime.faithful_of_reaches reached).neverSkips there

/-- A step that loses no fact, as a check: no re-read fails, whoever it is for. -/
def losesNothing (hub : Realtime) : Realtime.Action → Bool
  | .relisten => false
  | .run failure => match hub.dispatching with
    | some (_, .call (.readNotificationFor recipientId id) _) => failure.isNone &&
      hub.store.rows.all fun row =>
        row.owned != (recipientId, id) || (Notification.fromRow row).isOk
    | _ => true
  | _ => true

/-- A step that passes the check fails no re-read. -/
theorem heard_of_losesNothing (hub : Realtime) (action : Realtime.Action)
    (passed : losesNothing hub action = true) : hub.Heard action := by
  constructor
  · rintro rfl
    contradiction
  · rintro failure signal recipientId id next rfl at_ -
    simp only [losesNothing, at_, Bool.and_eq_true, Option.isNone_iff_eq_none] at passed
    refine ⟨passed.1, fun row member owned => ?_⟩
    have readable := List.all_eq_true.mp passed.2 row member
    cases content : Notification.fromRow row with
    | ok notification => exact ⟨notification, rfl⟩
    | error error =>
      rw [content, owned, bne_self_eq_false] at readable
      contradiction

/-- From a stream's opening, the run of `sampleStreaming` loses no fact. -/
theorem stream_never_skips_sample :
    (∀ index stream, sampleServed.streams[index]? = some stream →
      sampleServed.NeverSkips index stream) ∧
    sampleServed.streams.map (fun stream => (sampleServed.due stream).length) = [1] := by
  have played : play (fun hub action => if losesNothing hub action then hub.step action else none)
      (Realtime.start []) (.subscribe sampleReader :: sampleStreaming) = some sampleServed := rfl
  have run := steps_of_checked_play played heard_of_losesNothing
  exact ⟨stream_never_skips .empty sampleServed ⟨_, run⟩, by decide⟩

/-- A fan-out is committed while a recipient's stream is open, and the re-read of their
notification fails; then they mark it as read. -/
def sampleFailure : List Realtime.Action :=
  .subscribe sampleReader ::
    (sampleFanOut ++ [Store.Action.commit 0]).map .database ++
    [.receive, .run none, .run (some (.other "pool timed out")), .finish,
      .receive, .run none, .finish] ++
    [Store.Action.begin 1 (.markAsRead (sampleId 2) (sampleId 10)) ⟨1000⟩, .advance 1, .advance 1,
      .visit 1 0, .finish 1, .advance 1, .commit 1].map .database ++
    [.receive, .run none, .run none, .run none, .finish, .poll 0]

/-- The hub `sampleFailure` leads to. -/
def sampleSkipped : Realtime :=
  (play Realtime.step (Realtime.start []) sampleFailure).get (by decide)

/-- A step after which the listener still has every signal, as a check. -/
def listens (_ : Realtime) : Realtime.Action → Bool
  | .relisten => false
  | _ => true

/-- A re-read that fails is only logged: the stream, which was due an `Added` first, serves the
`Read` that comes after it. -/
theorem failed_reread_is_skipped :
    ¬ ∀ hub, Reaches Realtime.step Realtime.Listens (Realtime.start []) hub →
      ∀ index stream, hub.streams[index]? = some stream → hub.NeverSkips index stream := by
  intro claimed
  have ensures : ∀ (hub : Realtime) (action : Realtime.Action), listens hub action = true →
      hub.Listens action := by
    rintro hub action passed rfl
    contradiction
  have played : play (fun hub action => if listens hub action then hub.step action else none)
      (Realtime.start []) sampleFailure = some sampleSkipped := rfl
  have there : sampleSkipped.streams[0]?.isSome = true := by decide
  obtain ⟨stream, at_⟩ := Option.isSome_iff_exists.mp there
  have skips := claimed sampleSkipped ⟨_, steps_of_checked_play played ensures⟩ 0 stream at_
  have nothing : (sampleSkipped.streams.map fun stream =>
      (reckoned (sampleSkipped.due stream)).length)[0]? = some 0 := by decide
  have one : (sampleSkipped.streams.map fun stream => stream.served.length)[0]? = some 1 := by
    decide
  rw [List.getElem?_map, at_] at nothing one
  obtain ⟨events, verdict, items, due, tail⟩ := skips.inOrder
  have none_ : events = [] := by
    rw [List.length_eq_zero_iff.mp (Option.some.inj nothing), List.prefix_nil] at due
    exact due
  have served : stream.served.length = 1 := Option.some.inj one
  rw [Stream.served, items, none_] at served
  rcases tail with rfl | ⟨-, error, rfl⟩
  · exact Nat.zero_ne_one served
  · exact Nat.zero_ne_one served

end SvcNotifier
