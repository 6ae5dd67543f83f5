import SvcNotifier.Registry
import Mathlib.Data.List.Infix

/-!
# The way of a signal to the streams

The invariant of every run, whatever is lost in it. The dispatch under way is of a committed
signal and may deliver only that signal's event; every signal dispatched is accounted for; and
a stream has served what its receiver has taken from its channel, which holds only events
about its recipient.
-/

namespace SvcNotifier

open Library Program

namespace Realtime

variable {hub after : Realtime} {stream : Stream} {recipientId : Uuid} {initial : List Row}

/-! ## The dispatch under way -/

/-- A dispatch may deliver the event: it is the signal's, and concerns its recipient. -/
def Due (hub : Realtime) (signal : NotificationSignal) (event : ClientEvent) : Prop :=
  signal.Tells event ∧ event.Concerns hub.store signal.recipientId

/-- The stands of a dispatch that fit the database and the registry. -/
def Fits (hub : Realtime) (signal : NotificationSignal) : Stand → Prop
  | .ready event => hub.Due signal event
  | .holding channel event =>
    hub.registry signal.recipientId = some channel ∧ hub.Due signal event
  | _ => True

/-- The dispatch under way is of a committed signal and will settle it, and where it stands fits
and has a property. -/
def Stands (hub : Realtime) (holds : NotificationSignal → Stand → Prop) : Prop :=
  ∀ signal program, hub.dispatching = some (signal, program) →
    signal ∈ hub.store.log ∧ ∃ stand,
      Ensures (dispatchContract signal) (fun _ stand => stand = .settled) program stand ∧
        hub.Fits signal stand ∧ holds signal stand

/-- The dispatch under way will settle its signal. -/
def Dispatching (hub : Realtime) : Prop := hub.Stands fun _ _ => True

/-- What a call of a dispatch does: where the dispatch stood, where it stands, and what is
decided of the signal. -/
inductive Decides (hub : Realtime) (failure : Option SqlxError) (signal : NotificationSignal) :
    Stand → Stand → Realtime → Prop where
  /-- The recipient is active: the dispatch goes on. -/
  | active : Decides hub failure signal .undecided signal.onward hub
  /-- No stream of the recipient is open: their channel is evicted. -/
  | inactive (unwatched : ¬ hub.Watched signal.recipientId) :
      Decides hub failure signal .undecided .settled
        ((hub.evict signal.recipientId).record signal .inactive)
  /-- The re-read has found the row. -/
  | found {id : Uuid} {row : Row} {notification : Notification}
      (isAdded : signal = .added signal.recipientId id) (member : row ∈ hub.store.rows)
      (owned : row.owned = (signal.recipientId, id))
      (content : Notification.fromRow row = .ok notification) :
      Decides hub failure signal .undecided (.ready (.added notification)) hub
  /-- The row is no longer there. -/
  | gone {id : Uuid} (isAdded : signal = .added signal.recipientId id)
      (absent : ∀ row ∈ hub.store.rows, row.owned ≠ (signal.recipientId, id)) :
      Decides hub failure signal .undecided .settled (hub.record signal .gone)
  /-- The re-read has failed. -/
  | failed {id : Uuid} {error : SqlxError}
      {next : Except SqlxError (Option Notification) → Dispatch}
      (isAdded : signal = .added signal.recipientId id)
      (at_ : hub.dispatching =
        some (signal, .call (.readNotificationFor signal.recipientId id) next))
      (failing : hub.answer failure (.readNotificationFor signal.recipientId id) = .error error) :
      Decides hub failure signal .undecided .settled (hub.record signal (.failed error))
  /-- The recipient has a channel. -/
  | registered {channel : Nat} {event : ClientEvent}
      (found : hub.registry signal.recipientId = some channel) :
      Decides hub failure signal (.ready event) (.holding channel event) hub
  /-- The recipient has no channel any more. -/
  | unregistered {event : ClientEvent} (unwatched : ¬ hub.Watched signal.recipientId) :
      Decides hub failure signal (.ready event) .settled (hub.record signal .unregistered)
  /-- The event is sent on the channel. -/
  | sent {channel : Nat} {event : ClientEvent}
      (found : hub.registry signal.recipientId = some channel) (due : hub.Due signal event) :
      Decides hub failure signal (.holding channel event) .settled
        ((hub.push channel event).record signal (.sent event))

section

variable {failure : Option SqlxError} {signal : NotificationSignal} {stand later : Stand}

/-- A call leaves the database alone. -/
theorem Decides.store (decides : hub.Decides failure signal stand later after) :
    after.store = hub.store := by
  cases decides with
  | @sent channel event found due => exact (push_keeps hub channel event).2.2.2.2.1
  | _ => rfl

/-- A call takes nothing from the log. -/
theorem Decides.position (decides : hub.Decides failure signal stand later after) :
    after.position = hub.position := by
  cases decides with
  | @sent channel event found due => exact (push_keeps hub channel event).2.2.2.2.2
  | _ => rfl

/-- Only a dispatch whose signal is not settled makes a call. -/
theorem Decides.open_ (decides : hub.Decides failure signal stand later after) :
    stand ≠ .settled := by
  cases decides <;> simp

/-- A call that settles the signal records its fate, and no other call records anything. -/
theorem Decides.dispatched (decides : hub.Decides failure signal stand later after) :
    (∃ fate, later = .settled ∧
      after.dispatched = hub.dispatched ++ [⟨signal, fate, hub.store.rows⟩]) ∨
    later ≠ .settled ∧ after.dispatched = hub.dispatched := by
  cases decides with
  | active =>
    refine Or.inr ⟨?_, rfl⟩
    unfold NotificationSignal.onward
    cases signal.event <;> simp
  | inactive unwatched => exact Or.inl ⟨_, rfl, rfl⟩
  | found isAdded member owned content => exact Or.inr ⟨by simp, rfl⟩
  | gone isAdded absent => exact Or.inl ⟨_, rfl, rfl⟩
  | failed isAdded at_ failing => exact Or.inl ⟨_, rfl, rfl⟩
  | registered found => exact Or.inr ⟨by simp, rfl⟩
  | unregistered unwatched => exact Or.inl ⟨_, rfl, rfl⟩
  | @sent channel event found due =>
    obtain ⟨-, -, -, dispatched, store, -⟩ := push_keeps hub channel event
    refine Or.inl ⟨.sent event, rfl, ?_⟩
    rw [record, dispatched, store]

/-- The hub goes on with the rest of a dispatch. -/
theorem stands_resume {program : Dispatch} {holds : NotificationSignal → Stand → Prop}
    (committed : signal ∈ hub.store.log)
    (ensures : Ensures (dispatchContract signal) (fun _ stand => stand = .settled) program stand)
    (fits : hub.Fits signal stand) (kept : holds signal stand) :
    (hub.resume (some (signal, program))).Stands holds := by
  intro signal' program' found
  obtain ⟨rfl, rfl⟩ := Prod.mk.inj (Option.some.inj found)
  refine ⟨committed, stand, ensures, ?_, kept⟩
  cases stand with
  | ready event => exact fits
  | holding channel event => exact fits
  | _ => trivial

end

/-- Where a dispatch stands, while the database and the registry move on. -/
theorem Stands.moves {holds later : NotificationSignal → Stand → Prop} (stands : hub.Stands holds)
    (same : after.dispatching = hub.dispatching) (log : hub.store.log ⊆ after.store.log)
    (history : hub.store.history ⊆ after.store.history)
    (registry : ∀ recipientId channel, hub.registry recipientId = some channel →
      after.registry recipientId = some channel)
    (kept : ∀ signal stand, holds signal stand → later signal stand) : after.Stands later := by
  intro signal program found
  rw [same] at found
  obtain ⟨committed, stand, ensures, fits, held⟩ := stands signal program found
  refine ⟨log committed, stand, ensures, ?_, kept signal stand held⟩
  cases stand with
  | ready event => exact ⟨fits.1, fits.2.mono history⟩
  | holding channel event =>
    exact ⟨registry _ channel fits.1, fits.2.1, fits.2.2.mono history⟩
  | _ => trivial

/-- What the next call of a dispatch does. Where it takes the dispatch decides where it stands
from then on. -/
theorem Stands.performed {holds : NotificationSignal → Stand → Prop} (stands : hub.Stands holds)
    (sound : Store.Sound initial hub.store) (rooted : hub.store.Rooted) (wired : hub.Wired)
    (failure : Option SqlxError) {signal : NotificationSignal} {request : HubCall}
    {next : request.Reply → Dispatch} (at_ : hub.dispatching = some (signal, .call request next)) :
    ∃ stand later, holds signal stand ∧
      hub.Decides failure signal stand later
        (hub.perform signal request (hub.answer failure request)) ∧
      ∀ holds' : NotificationSignal → Stand → Prop, holds' signal later →
        ((hub.perform signal request (hub.answer failure request)).resume
          (some (signal, next (hub.answer failure request)))).Stands holds' := by
  obtain ⟨committed, stand, ⟨required, rest⟩, fits, held⟩ := stands _ _ at_
  -- What is left to show: the call decides, and the dispatch stands where it may.
  have goesOn : ∀ later,
      hub.Decides failure signal stand later
        (hub.perform signal request (hub.answer failure request)) →
      (dispatchContract signal).allows request stand (hub.answer failure request) later →
      (hub.perform signal request (hub.answer failure request)).Fits signal later →
      ∃ stand later, holds signal stand ∧
        hub.Decides failure signal stand later
          (hub.perform signal request (hub.answer failure request)) ∧
        ∀ holds' : NotificationSignal → Stand → Prop, holds' signal later →
          ((hub.perform signal request (hub.answer failure request)).resume
            (some (signal, next (hub.answer failure request)))).Stands holds' := by
    intro later decides allowed fits'
    have committed' : signal ∈
        (hub.perform signal request (hub.answer failure request)).store.log := by
      rw [decides.store]
      exact committed
    exact ⟨stand, later, held, decides, fun holds' kept =>
      stands_resume committed' (rest _ _ allowed) fits' kept⟩
  cases request with
  | active recipientId =>
    obtain ⟨rfl, rfl⟩ := required
    cases active : hub.isActive signal.recipientId with
    | true =>
      have answered : hub.answer failure (.active signal.recipientId) = true := active
      rw [answered] at goesOn ⊢
      apply goesOn signal.onward .active rfl
      show hub.Fits signal signal.onward
      unfold NotificationSignal.onward
      cases told : signal.event with
      | some event => exact rooted.event sound committed told
      | none => trivial
    | false =>
      have answered : hub.answer failure (.active signal.recipientId) = false := active
      have unwatched : ¬ hub.Watched signal.recipientId := by
        rw [← wired.active, active]
        simp
      rw [answered] at goesOn ⊢
      exact goesOn .settled (.inactive unwatched) rfl trivial
  | readNotificationFor recipientId id =>
    obtain ⟨rfl, isAdded⟩ := required
    have own : recipientId = signal.recipientId := by
      rw [isAdded]
      rfl
    subst own
    cases found : hub.answer failure (.readNotificationFor signal.recipientId id) with
    | error error =>
      rw [found] at goesOn
      exact goesOn .settled (.failed isAdded at_ found) rfl trivial
    | ok read =>
      rw [found] at goesOn
      have selected : reread hub.store.rows signal.recipientId id = .ok read := by
        cases failure with
        | none => exact found
        | some error => cases found
      cases read with
      | none => exact goesOn .settled (.gone isAdded (reread_none selected)) rfl trivial
      | some notification =>
        obtain ⟨row, member, owned, content⟩ := reread_some selected
        apply goesOn (.ready (.added notification)) (.found isAdded member owned content) rfl
        obtain ⟨first, inserted, same⟩ := sound.consistent.born row member
        obtain ⟨own, ident⟩ := Prod.mk.inj owned
        refine ⟨?_, first, row.readAt, inserted, ?_, ?_⟩
        · rw [isAdded, ← ident]
          exact (fromRow_same content).1
        · rw [← own, same]
        · rw [← same]
          exact content
  | sender recipientId =>
    obtain ⟨⟨event, rfl⟩, rfl⟩ := required
    cases found : hub.registry signal.recipientId with
    | none =>
      have answered : hub.answer failure (.sender signal.recipientId) = none := found
      have unwatched : ¬ hub.Watched signal.recipientId := by
        rintro ⟨stream, member, receiving, own⟩
        have registered := wired.registered stream member receiving
        rw [own, found] at registered
        contradiction
      rw [answered] at goesOn ⊢
      exact goesOn .settled (.unregistered unwatched) rfl trivial
    | some channel =>
      have answered : hub.answer failure (.sender signal.recipientId) = some channel := found
      rw [answered] at goesOn ⊢
      apply goesOn (.holding channel event) (.registered found) ?_ ⟨found, fits⟩
      intro event' same
      rw [Stand.ready.inj same]
  | send channel event =>
    obtain rfl : stand = .holding channel event := required
    exact goesOn .settled (.sent fits.1 fits.2) rfl trivial

/-! ## What a stream has served -/

/-- What a stream's receiver has taken from its channel. -/
def taken (hub : Realtime) (stream : Stream) : List ClientEvent :=
  ((hub.channels stream.channel).take stream.next).drop stream.start

/-- A stream has served what its receiver has taken, and then at most one verdict, which ended
it. -/
structure Reads (hub : Realtime) (stream : Stream) : Prop where
  /-- It reads from its start on. -/
  started : stream.start ≤ stream.next
  /-- It has taken no more than was sent. -/
  inside : stream.next ≤ (hub.channels stream.channel).length
  /-- What it has taken it has served, and a verdict at most after that. -/
  items : ∃ verdict,
    stream.items = (hub.taken stream).map (fun event => .ok (intoUnion event)) ++ verdict ∧
      (verdict = [] ∨ stream.receiving = false ∧ ∃ error, verdict = [.error error])

/-- How much a receiver has taken. -/
theorem Reads.length (reads : hub.Reads stream) :
    (hub.taken stream).length = stream.next - stream.start := by
  have inside := reads.inside
  rw [taken, List.length_drop, List.length_take]
  omega

/-- What an open stream has served. -/
theorem Reads.items_open (reads : hub.Reads stream) (receiving : stream.receiving = true) :
    stream.items = (hub.taken stream).map fun event => .ok (intoUnion event) := by
  obtain ⟨verdict, items, tail⟩ := reads.items
  rcases tail with none_ | ⟨closed, -⟩
  · rw [items, none_, List.append_nil]
  · rw [receiving] at closed
    contradiction

/-- What has been taken from a channel does not change while more is sent. -/
theorem taken_grows (inside : stream.next ≤ (hub.channels stream.channel).length)
    (grown : hub.channels stream.channel <+: after.channels stream.channel) :
    after.taken stream = hub.taken stream := by
  obtain ⟨more, same⟩ := grown
  rw [taken, taken, ← same, List.take_append_of_le_length inside]

/-- A stream stays where it is while more is sent. -/
theorem Reads.grows (reads : hub.Reads stream)
    (grown : hub.channels stream.channel <+: after.channels stream.channel) :
    after.Reads stream := by
  refine ⟨reads.started, Nat.le_trans reads.inside grown.length_le, ?_⟩
  rw [taken_grows reads.inside grown]
  exact reads.items

/-- A receiver takes the value it receives. -/
theorem Reads.taken_serve (reads : hub.Reads stream) {event : ClientEvent}
    (received : receive channelCapacity (hub.channels stream.channel) stream.next = .value event) :
    hub.taken (stream.serve event) = hub.taken stream ++ [event] := by
  have next := (receive_value received).1
  have inside := reads.inside
  have started := reads.started
  have one : (hub.channels stream.channel).take (stream.next + 1) =
      (hub.channels stream.channel).take stream.next ++ [event] := by
    rw [List.take_add_one, next]
    rfl
  have long : stream.start ≤ ((hub.channels stream.channel).take stream.next).length := by
    rw [List.length_take]
    omega
  show ((hub.channels stream.channel).take (stream.next + 1)).drop stream.start = _
  rw [one, List.drop_append_of_le_length long]
  rfl

/-- A stream that has received a value has served it. -/
theorem Reads.serve (reads : hub.Reads stream) (receiving : stream.receiving = true)
    {event : ClientEvent}
    (received : receive channelCapacity (hub.channels stream.channel) stream.next = .value event) :
    hub.Reads (stream.serve event) := by
  have bound : stream.next < (hub.channels stream.channel).length :=
    (List.getElem?_eq_some_iff.mp (receive_value received).1).1
  have started := reads.started
  refine ⟨?_, bound, [], ?_, Or.inl rfl⟩
  · show stream.start ≤ stream.next + 1
    omega
  · rw [reads.taken_serve received, List.map_append, ← reads.items_open receiving,
      List.append_nil]
    rfl

/-- A stream that ends serves at most a verdict more. -/
theorem Reads.ends (reads : hub.Reads stream) (receiving : stream.receiving = true)
    {later : Stream} {verdict : List (Except EdgeError NotifierNotificationEvent)}
    (channel : later.channel = stream.channel) (start : later.start = stream.start)
    (next : later.next = stream.next) (items : later.items = stream.items ++ verdict)
    (tail : verdict = [] ∨ later.receiving = false ∧ ∃ error, verdict = [.error error]) :
    hub.Reads later := by
  have same : hub.taken later = hub.taken stream := by rw [taken, taken, channel, start, next]
  constructor
  · rw [start, next]
    exact reads.started
  · rw [channel, next]
    exact reads.inside
  · exact ⟨verdict, by rw [same, items, reads.items_open receiving], tail⟩

/-! ## Every run -/

/-- What holds of a hub in every run, whatever is lost. -/
structure Routed (initial : List Row) (hub : Realtime) : Prop where
  /-- The database is sound. -/
  sound : Store.Sound initial hub.store
  /-- Every committed write is on a row that was inserted. -/
  rooted : hub.store.Rooted
  /-- The registry, the channels and the streams fit together. -/
  wired : hub.Wired
  /-- A dispatch that is under way stands where its program leads. -/
  dispatching : hub.Dispatching
  /-- The fate of every dispatched signal is accounted for. -/
  accounted : ∀ entry ∈ hub.dispatched, entry.Accounted
  /-- Every stream serves what its receiver takes. -/
  reads : ∀ stream ∈ hub.streams, hub.Reads stream
  /-- What is sent on a stream's channel concerns its recipient. -/
  carried : ∀ stream ∈ hub.streams, ∀ event ∈ hub.channels stream.channel,
    event.Concerns hub.store stream.recipientId

/-- A hub just started is routed. -/
theorem start_routed (table : Notifications) : (start table.rows).Routed table.rows where
  sound := Store.start_sound table
  rooted := Store.start_rooted table.rows
  wired := start_wired table.rows
  dispatching := by simp [Dispatching, Stands, start]
  accounted := by simp [start]
  reads := by simp [start]
  carried := by simp [start]

/-- Every item a stream serves concerns its recipient. -/
theorem Routed.serves (routed : hub.Routed initial) (member : stream ∈ hub.streams)
    {item : NotifierNotificationEvent} (served : .ok item ∈ stream.items) :
    ∃ event, item = intoUnion event ∧ event.Concerns hub.store stream.recipientId := by
  obtain ⟨verdict, items, tail⟩ := (routed.reads stream member).items
  rw [items, List.mem_append] at served
  rcases served with sent | last
  · obtain ⟨event, inside, same⟩ := List.mem_map.mp sent
    refine ⟨event, (Except.ok.inj same).symm, routed.carried stream member event ?_⟩
    exact List.mem_of_mem_take (List.mem_of_mem_drop inside)
  · rcases tail with rfl | ⟨-, error, rfl⟩
    · cases last
    · rw [List.mem_singleton] at last
      cases last

/-- A hub that has gone on with a dispatch: the streams are where they were, and more may have
been sent and dispatched. -/
theorem Routed.goesOn (routed : hub.Routed initial) (store : after.store = hub.store)
    (streams : after.streams = hub.streams) (wired : after.Wired)
    (dispatching : after.Dispatching)
    (accounted : ∀ entry ∈ after.dispatched, entry ∈ hub.dispatched ∨ entry.Accounted)
    (grown : ∀ channel, hub.channels channel <+: after.channels channel)
    (carried : ∀ stream ∈ hub.streams, ∀ event ∈ after.channels stream.channel,
      event ∈ hub.channels stream.channel ∨ event.Concerns hub.store stream.recipientId) :
    after.Routed initial where
  sound := store ▸ routed.sound
  rooted := store ▸ routed.rooted
  wired := wired
  dispatching := dispatching
  accounted entry member := (accounted entry member).elim (routed.accounted entry) id
  reads stream member := (routed.reads stream (streams ▸ member)).grows (grown _)
  carried := by
    rw [streams, store]
    intro stream member event inside
    exact (carried stream member event inside).elim (routed.carried stream member event) id

/-- Whatever a call decides keeps the hub routed. -/
theorem Routed.decided (routed : hub.Routed initial) {failure : Option SqlxError}
    {signal : NotificationSignal} {stand later : Stand}
    (decides : hub.Decides failure signal stand later after)
    {dispatching : Option (NotificationSignal × Dispatch)}
    (goesOn : (after.resume dispatching).Dispatching) :
    (after.resume dispatching).Routed initial := by
  have wired := routed.wired
  have same : ∀ channel, hub.channels channel <+: hub.channels channel :=
    fun channel => List.prefix_rfl
  have kept : ∀ stream ∈ hub.streams, ∀ event ∈ hub.channels stream.channel,
      event ∈ hub.channels stream.channel ∨ event.Concerns hub.store stream.recipientId :=
    fun stream member event inside => Or.inl inside
  -- The record of one more signal that is accounted for.
  have recorded : ∀ fate : Fate, Dispatched.Accounted ⟨signal, fate, hub.store.rows⟩ →
      ∀ entry ∈ hub.dispatched ++ [⟨signal, fate, hub.store.rows⟩],
        entry ∈ hub.dispatched ∨ entry.Accounted := by
    intro fate accounted entry member
    rcases List.mem_append.mp member with old | new
    · exact Or.inl old
    · rw [List.mem_singleton] at new
      exact Or.inr (new ▸ accounted)
  cases decides with
  | active =>
    exact routed.goesOn rfl rfl (wired.aside rfl rfl rfl rfl) goesOn
      (fun entry member => Or.inl member) same kept
  | found isAdded member owned content =>
    exact routed.goesOn rfl rfl (wired.aside rfl rfl rfl rfl) goesOn
      (fun entry member => Or.inl member) same kept
  | registered found =>
    exact routed.goesOn rfl rfl (wired.aside rfl rfl rfl rfl) goesOn
      (fun entry member => Or.inl member) same kept
  | inactive unwatched =>
    exact routed.goesOn rfl rfl ((wired.evict unwatched).aside rfl rfl rfl rfl) goesOn
      (recorded .inactive trivial) same kept
  | unregistered unwatched =>
    exact routed.goesOn rfl rfl (wired.aside rfl rfl rfl rfl) goesOn
      (recorded .unregistered trivial) same kept
  | gone isAdded absent =>
    exact routed.goesOn rfl rfl (wired.aside rfl rfl rfl rfl) goesOn
      (recorded .gone ⟨_, _, isAdded, absent⟩) same kept
  | @failed id error next isAdded at_ failing =>
    exact routed.goesOn rfl rfl (wired.aside rfl rfl rfl rfl) goesOn
      (recorded (.failed error) ⟨_, _, isAdded⟩) same kept
  | @sent channel event found due =>
    obtain ⟨-, -, streams, dispatched, store, -⟩ := push_keeps hub channel event
    obtain ⟨others, own⟩ := push_channels hub channel event
    refine routed.goesOn store streams ((wired.push found event).aside rfl rfl rfl rfl) goesOn
      ?_ ?_ ?_
    · show ∀ entry ∈ (hub.push channel event).dispatched ++
        [⟨signal, .sent event, (hub.push channel event).store.rows⟩], _
      rw [dispatched, store]
      exact recorded (.sent event) due.1
    · intro other
      show hub.channels other <+: (hub.push channel event).channels other
      by_cases here : other = channel
      · subst here
        rw [own]
        exact List.prefix_append _ _
      · rw [others other here]
    · intro stream member told inside
      have inside' : told ∈ (hub.push channel event).channels stream.channel := inside
      by_cases here : stream.channel = channel
      · rw [here, own, List.mem_append] at inside'
        rw [here]
        rcases inside' with old | new
        · exact Or.inl old
        · right
          -- The channel is the recipient's, and the event is about them.
          have mine : signal.recipientId = stream.recipientId := by
            apply wired.own stream member
            rw [here]
            exact found
          have same : told = event := by
            split at new
            · exact List.mem_singleton.mp new
            · cases new
          rw [same, ← mine]
          exact due.2
      · rw [others _ here] at inside'
        exact Or.inl inside'

/-- A stream that goes on or ends keeps the hub routed. -/
theorem Routed.setStream (routed : hub.Routed initial) {index : Nat} {later : Stream}
    (there : hub.streams[index]? = some stream) (receiving : stream.receiving = true)
    (recipient : later.recipientId = stream.recipientId) (channel : later.channel = stream.channel)
    (reads : hub.Reads later) : (hub.setStream index later).Routed initial where
  sound := routed.sound
  rooted := routed.rooted
  wired := routed.wired.setStream there receiving recipient channel
  dispatching := by
    apply routed.dispatching.moves rfl (List.Subset.refl _) (List.Subset.refl _)
    · exact fun _ _ registered => registered
    · exact fun _ _ held => held
  accounted := routed.accounted
  reads := by
    intro other inside
    rcases List.mem_or_eq_of_mem_set inside with old | rfl
    · exact (routed.reads other old).grows List.prefix_rfl
    · exact reads.grows List.prefix_rfl
  carried := by
    intro other inside
    rcases List.mem_or_eq_of_mem_set inside with old | rfl
    · exact routed.carried other old
    · rw [recipient, show (hub.setStream index other).channels other.channel =
        hub.channels stream.channel from congrArg hub.channels channel]
      exact routed.carried stream (List.mem_of_getElem? there)

/-- A new stream keeps the hub routed: what its channel holds was sent to its recipient. -/
theorem Routed.subscribe (routed : hub.Routed initial) (recipientId : Uuid) :
    (hub.subscribe recipientId).Routed initial where
  sound := routed.sound
  rooted := routed.rooted
  wired := routed.wired.subscribe recipientId
  dispatching := by
    refine routed.dispatching.moves rfl (List.Subset.refl _) (List.Subset.refl _) ?_
      fun _ _ held => held
    exact fun _ _ registered => subscribe_registry recipientId registered
  accounted := routed.accounted
  reads := by
    intro stream member
    rcases List.mem_append.mp member with old | new
    · exact (routed.reads stream old).grows List.prefix_rfl
    · rw [List.mem_singleton] at new
      subst new
      refine ⟨Nat.le_refl _, Nat.le_refl _, [], ?_, Or.inl rfl⟩
      have nothing : (hub.subscribe recipientId).taken
          (hub.opening recipientId (hub.entry recipientId)) = [] := by
        show ((hub.channels (hub.entry recipientId)).take _).drop _ = []
        rw [opening, List.take_length, List.drop_length]
      rw [nothing]
      rfl
  carried := by
    intro stream member
    rcases List.mem_append.mp member with old | new
    · exact routed.carried stream old
    · rw [List.mem_singleton] at new
      subst new
      show ∀ event ∈ hub.channels (hub.entry recipientId), event.Concerns hub.store recipientId
      unfold entry
      cases registered : hub.registry recipientId with
      | some channel =>
        obtain ⟨stream, inside, own, same⟩ :=
          routed.wired.attended recipientId channel registered
        subst own same
        exact routed.carried stream inside
      | none =>
        rw [routed.wired.blank hub.fresh (Nat.le_refl _)]
        intro event inside
        cases inside

/-- What reading a stream gives keeps it reading its channel. -/
theorem Routed.polled (routed : hub.Routed initial) {index : Nat} {later : Stream}
    (there : hub.streams[index]? = some stream) (receiving : stream.receiving = true)
    (given : hub.pollStream stream = some later) :
    later.recipientId = stream.recipientId ∧ later.channel = stream.channel ∧
      later.start = stream.start ∧ hub.Reads later ∧
      ((∃ event, receive channelCapacity (hub.channels stream.channel) stream.next = .value event ∧
          later = stream.serve event) ∨
        ∃ lost, receive channelCapacity (hub.channels stream.channel) stream.next = .lagged lost ∧
          later = stream.endOn (lagged lost)) := by
  have member : stream ∈ hub.streams := List.mem_of_getElem? there
  have reads := routed.reads stream member
  unfold pollStream at given
  cases received : Library.receive channelCapacity (hub.channels stream.channel) stream.next with
  | value event =>
    rw [received] at given
    obtain rfl := Option.some.inj given
    exact ⟨rfl, rfl, rfl, reads.serve receiving received, Or.inl ⟨event, rfl, rfl⟩⟩
  | lagged lost =>
    rw [received] at given
    obtain rfl := Option.some.inj given
    refine ⟨rfl, rfl, rfl, ?_, Or.inr ⟨lost, rfl, rfl⟩⟩
    exact reads.ends receiving rfl rfl rfl rfl (Or.inr ⟨rfl, _, rfl⟩)
  | pending =>
    -- The channel of an open stream is registered: it waits.
    rw [received] at given
    simp only [routed.wired.registered stream member receiving, if_true] at given
    contradiction

/-- Every step keeps the hub routed. -/
theorem routed_step {action : Action} (routed : hub.Routed initial)
    (stepped : hub.step action = some after) : after.Routed initial := by
  have wired := routed.wired
  have same : ∀ channel, hub.channels channel <+: hub.channels channel :=
    fun channel => List.prefix_rfl
  cases moves_of_step stepped with
  | @database action store moved =>
    have history := (Store.history_grows moved).subset
    have log := (Store.log_grows moved).subset
    refine ⟨Store.sound_step routed.sound moved,
      Store.rooted_step routed.sound routed.rooted moved, wired.aside rfl rfl rfl rfl, ?_,
      routed.accounted, ?_, ?_⟩
    · exact routed.dispatching.moves rfl log history (fun _ _ registered => registered)
        fun _ _ held => held
    · exact fun stream member => (routed.reads stream member).grows List.prefix_rfl
    · exact fun stream member event inside =>
        (routed.carried stream member event inside).mono history
  | relisten idle =>
    refine routed.goesOn rfl rfl (wired.aside rfl rfl rfl rfl) ?_
      (fun entry member => Or.inl member) same fun stream member event inside => Or.inl inside
    exact routed.dispatching.moves rfl (List.Subset.refl _) (List.Subset.refl _)
      (fun _ _ registered => registered) fun _ _ held => held
  | @receive signal idle notified =>
    refine routed.goesOn rfl rfl (wired.aside rfl rfl rfl rfl) ?_
      (fun entry member => Or.inl member) same fun stream member event inside => Or.inl inside
    have fits : Realtime.Fits { hub with position := hub.position + 1 } signal .undecided := trivial
    exact stands_resume (List.mem_of_getElem? notified) (dispatch_ensures signal) fits trivial
  | @run failure signal request next at_ =>
    obtain ⟨stand, later, -, decides, goesOn⟩ :=
      routed.dispatching.performed routed.sound routed.rooted wired failure at_
    exact routed.decided decides (goesOn _ trivial)
  | finish at_ =>
    refine routed.goesOn rfl rfl (wired.aside rfl rfl rfl rfl) ?_
      (fun entry member => Or.inl member) same fun stream member event inside => Or.inl inside
    intro signal program found
    cases found
  | opens accepted => exact routed.subscribe _
  | refuses refused => exact routed
  | poll there receiving given =>
    obtain ⟨recipient, channel, -, reads, -⟩ := routed.polled there receiving given
    exact routed.setStream there receiving recipient channel reads
  | close there receiving =>
    have reads := routed.reads _ (List.mem_of_getElem? there)
    exact routed.setStream there receiving rfl rfl
      (reads.ends receiving rfl rfl rfl (List.append_nil _).symm (Or.inl rfl))

/-- Every hub that a run from a table reaches is routed. -/
theorem routed_of_reaches {guard : Realtime → Action → Prop} {table : Notifications}
    (reached : Reaches step guard (start table.rows) hub) : hub.Routed table.rows :=
  reached.invariant (fun _ _ _ routed _ stepped => routed_step routed stepped)
    (start_routed table)

end Realtime

end SvcNotifier
