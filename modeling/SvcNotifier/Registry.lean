import SvcNotifier.Changes
import SvcNotifier.Listing
import SvcNotifier.Realtime

/-!
# What an event is about, and the registry

The two ends of the way from a write to a stream. A committed signal names rows of its own
recipient only, and what the re-read of an `Added` returns is a row of theirs. The registry
gives each recipient a channel of their own, and the open streams of a recipient are on it.
-/

namespace SvcNotifier

open Library Program

/-! ## What an event is about -/

/-- An event concerns only notifications of the recipient: an `Added` carries the content of a
row of theirs, which was inserted and of which only `read_at` may have changed since, and the
others name rows of theirs. -/
def ClientEvent.Concerns (store : Store) (recipientId : Uuid) : ClientEvent → Prop
  | .added notification => ∃ first readAt, .insert first ∈ store.history ∧
      first.recipientId = recipientId ∧
      Notification.fromRow { first with readAt := readAt } = .ok notification
  | .read ids _ => ∀ id ∈ ids, store.Owned recipientId id
  | .deleted ids => ∀ id ∈ ids, store.Owned recipientId id

/-- The event is the one the signal announces. -/
def NotificationSignal.Tells : NotificationSignal → ClientEvent → Prop
  | .added _ id, .added notification => notification.id = id
  | .read _ ids readAt, .read told at_ => told = ids ∧ at_ = readAt
  | .deleted _ ids, .deleted told => told = ids
  | _, _ => False

/-- A signal is accounted for: its event was sent, or nobody watched, or its re-read failed, or
its row was no longer in the table. -/
def Dispatched.Accounted (entry : Dispatched) : Prop :=
  match entry.fate with
  | .sent event => entry.signal.Tells event
  | .gone => ∃ recipientId id, entry.signal = .added recipientId id ∧
      ∀ row ∈ entry.rows, row.owned ≠ (recipientId, id)
  | .failed _ => ∃ recipientId id, entry.signal = .added recipientId id
  | .inactive => True
  | .unregistered => True

/-- An event goes on concerning its recipient. -/
theorem ClientEvent.Concerns.mono {store after : Store} {recipientId : Uuid} {event : ClientEvent}
    (concerns : event.Concerns store recipientId) (history : store.history ⊆ after.history) :
    event.Concerns after recipientId := by
  cases event with
  | added notification =>
    obtain ⟨first, readAt, inserted, own, content⟩ := concerns
    exact ⟨first, readAt, history inserted, own, content⟩
  | read ids readAt => exact fun id member => (concerns id member).mono history
  | deleted ids => exact fun id member => (concerns id member).mono history

namespace Store

variable {store after : Store} {initial : List Row}

/-- Every committed write is on a row that was inserted, under the same recipient. -/
def Rooted (store : Store) : Prop :=
  ∀ write ∈ store.history, store.Owned write.row.recipientId write.id

/-- The rows a database starts with root themselves. -/
theorem start_rooted (rows : List Row) : (start rows).Rooted := by
  intro write member
  obtain ⟨row, -, rfl⟩ := List.mem_map.mp member
  exact ⟨row, member, rfl⟩

/-- Every step roots what it writes. -/
theorem rooted_step {action : Action} (sound : Sound initial store) (rooted : store.Rooted)
    (stepped : store.step action = some after) : after.Rooted := by
  obtain ⟨writes, queued, applies, -⟩ := applies_of_step sound stepped
  have grown := (history_grows stepped).subset
  intro write member
  rw [applies.history, List.mem_append] at member
  rcases member with old | new
  · exact (rooted write old).mono grown
  · cases write with
    | insert row =>
      have inserted : Write.insert row ∈ after.history := by
        rw [applies.history]
        exact List.mem_append_right _ new
      exact ⟨row, inserted, rfl⟩
    | setRead row readAt => exact (sound.owned (applies.lawful.reads row readAt new).1).mono grown
    | delete row => exact (sound.owned (applies.lawful.deletes row new)).mono grown

/-- Every committed signal names rows of its own recipient. -/
theorem Rooted.announced (rooted : store.Rooted) (sound : Sound initial store)
    {signal : NotificationSignal} (committed : signal ∈ store.log) {fact : Fact}
    (stated : fact ∈ signal.facts) : store.Owned fact.recipientId fact.id := by
  obtain ⟨made, history, log, -⟩ := sound.attributed
  have member : fact ∈ made.map Write.fact := by
    rw [← log]
    exact List.mem_flatMap.mpr ⟨signal, committed, stated⟩
  obtain ⟨write, inside, rfl⟩ := List.mem_map.mp member
  apply rooted write
  rw [history]
  exact List.mem_append_right _ inside

/-- The event of a committed signal that needs no re-read concerns the signal's recipient. -/
theorem Rooted.event (rooted : store.Rooted) (sound : Sound initial store)
    {signal : NotificationSignal} (committed : signal ∈ store.log) {event : ClientEvent}
    (told : signal.event = some event) :
    signal.Tells event ∧ event.Concerns store signal.recipientId := by
  have owned : ∀ fact ∈ signal.facts, store.Owned fact.recipientId fact.id :=
    fun _ stated => rooted.announced sound committed stated
  cases signal with
  | added recipientId id => contradiction
  | read recipientId ids readAt =>
    obtain rfl := Option.some.inj told
    refine ⟨⟨rfl, rfl⟩, fun id member => ?_⟩
    exact owned ⟨.read, recipientId, id⟩ (List.mem_map_of_mem member)
  | deleted recipientId ids =>
    obtain rfl := Option.some.inj told
    refine ⟨rfl, fun id member => ?_⟩
    exact owned ⟨.deleted, recipientId, id⟩ (List.mem_map_of_mem member)

end Store

/-! ## The re-read -/

/-- The re-read selects the row with the signal's recipient and id. -/
theorem reread_eq (rows : List Row) (recipientId id : Uuid) :
    reread rows recipientId id = match anchorRow rows recipientId id with
      | none => .ok none
      | some row => match Notification.fromRow row with
        | .ok notification => .ok (some notification)
        | .error error => .error (corrupt error) := by
  rw [← anchorRow_visible recipientId id rows]
  unfold reread readNotificationFor
  simp only [execute, perform_bind, onViews, Statement.userAfter, Statement.reply, visible]
  cases anchorRow (rows.filter (notificationsAppScope (some recipientId))) recipientId id with
  | none => rfl
  | some row =>
    simp only
    cases Notification.fromRow row with
    | ok notification => rfl
    | error error => rfl

/-- The row that `anchorRow` finds. -/
theorem anchorRow_owned {rows : List Row} {recipientId id : Uuid} {row : Row}
    (found : anchorRow rows recipientId id = some row) :
    row ∈ rows ∧ row.owned = (recipientId, id) := by
  obtain ⟨member, sameId, sameRecipient⟩ := anchorRow_some found
  exact ⟨member, Prod.ext sameRecipient sameId⟩

/-- A row is served under its own id, with its own times. -/
theorem fromRow_same {row : Row} {notification : Notification}
    (content : Notification.fromRow row = .ok notification) :
    notification.id = row.id ∧ notification.readAt = row.readAt ∧
      notification.createdAt = row.createdAt := by
  unfold Notification.fromRow at content
  cases link : row.link with
  | none =>
    simp only [link, Except.ok.injEq] at content
    rw [← content]
    exact ⟨rfl, rfl, rfl⟩
  | some raw =>
    simp only [link] at content
    cases parsed : RelativeLink.parse raw with
    | error error =>
      simp only [parsed] at content
      contradiction
    | ok relative =>
      simp only [parsed, Except.ok.injEq] at content
      rw [← content]
      exact ⟨rfl, rfl, rfl⟩

/-- A re-read that finds a notification has read a row of the recipient with the id. -/
theorem reread_some {rows : List Row} {recipientId id : Uuid} {notification : Notification}
    (found : reread rows recipientId id = .ok (some notification)) :
    ∃ row ∈ rows, row.owned = (recipientId, id) ∧
      Notification.fromRow row = .ok notification := by
  rw [reread_eq] at found
  cases selected : anchorRow rows recipientId id with
  | none =>
    rw [selected] at found
    cases found
  | some row =>
    obtain ⟨member, owned⟩ := anchorRow_owned selected
    refine ⟨row, member, owned, ?_⟩
    cases hydrated : Notification.fromRow row with
    | error error =>
      simp only [selected, hydrated] at found
      contradiction
    | ok read =>
      simp only [selected, hydrated, Except.ok.injEq, Option.some.injEq] at found
      rw [found]

/-- A re-read that finds nothing means that the recipient has no row with the id. -/
theorem reread_none {rows : List Row} {recipientId id : Uuid}
    (found : reread rows recipientId id = .ok none) :
    ∀ row ∈ rows, row.owned ≠ (recipientId, id) := by
  intro row member owned
  rw [reread_eq] at found
  obtain ⟨own, same⟩ := Prod.mk.inj owned
  cases selected : anchorRow rows recipientId id with
  | none =>
    have passed := List.find?_eq_none.mp selected row member
    simp [own, same] at passed
  | some other =>
    rw [selected] at found
    cases hydrated : Notification.fromRow other with
    | error error =>
      simp only [hydrated] at found
      contradiction
    | ok read =>
      simp only [hydrated] at found
      cases found

/-- A re-read that fails by itself has read a corrupt row. -/
theorem reread_error {rows : List Row} {recipientId id : Uuid} {error : SqlxError}
    (failed : reread rows recipientId id = .error error) :
    ∃ row ∈ rows, row.owned = (recipientId, id) ∧
      ∃ corrupted, Notification.fromRow row = .error corrupted := by
  rw [reread_eq] at failed
  cases selected : anchorRow rows recipientId id with
  | none =>
    rw [selected] at failed
    contradiction
  | some row =>
    obtain ⟨member, owned⟩ := anchorRow_owned selected
    refine ⟨row, member, owned, ?_⟩
    cases hydrated : Notification.fromRow row with
    | error corrupted => exact ⟨corrupted, rfl⟩
    | ok read =>
      simp only [selected, hydrated] at failed
      contradiction

namespace Realtime

variable {hub after : Realtime} {stream : Stream} {recipientId : Uuid} {initial : List Row}

/-! ## The registry -/

/-- Somebody has a stream of the recipient open. -/
def Watched (hub : Realtime) (recipientId : Uuid) : Prop :=
  ∃ stream ∈ hub.streams, stream.receiving = true ∧ stream.recipientId = recipientId

/-- The registry, the channels and the streams fit together. -/
structure Wired (hub : Realtime) : Prop where
  /-- An open stream is on the channel registered for its recipient. -/
  registered : ∀ stream ∈ hub.streams, stream.receiving = true →
    hub.registry stream.recipientId = some stream.channel
  /-- The channel of a stream is registered for nobody but its recipient. -/
  own : ∀ stream ∈ hub.streams, ∀ recipientId,
    hub.registry recipientId = some stream.channel → recipientId = stream.recipientId
  /-- A channel is registered for a recipient who has opened a stream on it. -/
  attended : ∀ recipientId channel, hub.registry recipientId = some channel →
    ∃ stream ∈ hub.streams, stream.recipientId = recipientId ∧ stream.channel = channel
  /-- Channels are numbered in the order they are made. -/
  made : ∀ stream ∈ hub.streams, stream.channel < hub.fresh
  /-- Nothing has been sent on a channel that is still to be made. -/
  blank : ∀ channel, hub.fresh ≤ channel → hub.channels channel = []

/-- A hub just started has no channel. -/
theorem start_wired (rows : List Row) : (start rows).Wired :=
  ⟨by simp [start], by simp [start], by simp [start], by simp [start], by simp [start]⟩

/-- The open streams on a recipient's channel are the recipient's. -/
theorem Wired.receivers (wired : hub.Wired) {channel : Nat}
    (found : hub.registry recipientId = some channel) :
    0 < hub.receiverCount channel ↔ hub.Watched recipientId := by
  rw [receiverCount, List.length_pos_iff_exists_mem]
  constructor
  · rintro ⟨stream, member⟩
    simp only [List.mem_filter, Bool.and_eq_true, beq_iff_eq] at member
    rw [← member.2.1] at found
    exact ⟨stream, member.1, member.2.2, (wired.own stream member.1 _ found).symm⟩
  · rintro ⟨stream, member, receiving, rfl⟩
    have own := wired.registered stream member receiving
    have same : stream.channel = channel := Option.some.inj (own.symm.trans found)
    exact ⟨stream, by simp [member, receiving, same]⟩

/-- A recipient is active when somebody watches. -/
theorem Wired.active (wired : hub.Wired) :
    hub.isActive recipientId = true ↔ hub.Watched recipientId := by
  unfold isActive
  cases found : hub.registry recipientId with
  | none =>
    refine iff_of_false (by simp) ?_
    rintro ⟨stream, member, receiving, rfl⟩
    rw [wired.registered stream member receiving] at found
    contradiction
  | some channel =>
    rw [decide_eq_true_eq]
    exact wired.receivers found

/-- A hub with the same registry, channels and streams. -/
theorem Wired.aside (wired : hub.Wired) (registry : after.registry = hub.registry)
    (channels : after.channels = hub.channels) (fresh : after.fresh = hub.fresh)
    (streams : after.streams = hub.streams) : after.Wired := by
  constructor
  · rw [registry, streams]
    exact wired.registered
  · rw [registry, streams]
    exact wired.own
  · rw [registry, streams]
    exact wired.attended
  · rw [fresh, streams]
    exact wired.made
  · rw [fresh, channels]
    exact wired.blank

/-- Evicting the channel of a recipient nobody watches. -/
theorem Wired.evict (wired : hub.Wired) (unwatched : ¬ hub.Watched recipientId) :
    (hub.evict recipientId).Wired := by
  have kept : ∀ other channel, (hub.evict recipientId).registry other = some channel →
      hub.registry other = some channel := by
    intro other channel found
    by_cases same : other = recipientId
    · subst same
      simp [Realtime.evict] at found
    · simpa [Realtime.evict, same] using found
  refine ⟨?_, ?_, ?_, wired.made, wired.blank⟩
  · intro stream member receiving
    have other : stream.recipientId ≠ recipientId := by
      intro own
      exact unwatched ⟨stream, member, receiving, own⟩
    have registered := wired.registered stream member receiving
    simpa [Realtime.evict, other] using registered
  · intro stream member other found
    exact wired.own stream member other (kept other _ found)
  · intro other channel found
    exact wired.attended other channel (kept other channel found)

/-- What pushing on a channel leaves alone. -/
theorem push_keeps (hub : Realtime) (channel : Nat) (event : ClientEvent) :
    (hub.push channel event).registry = hub.registry ∧
      (hub.push channel event).fresh = hub.fresh ∧
      (hub.push channel event).streams = hub.streams ∧
      (hub.push channel event).dispatched = hub.dispatched ∧
      (hub.push channel event).store = hub.store ∧
      (hub.push channel event).position = hub.position := by
  unfold push
  split
  · exact ⟨rfl, rfl, rfl, rfl, rfl, rfl⟩
  · exact ⟨rfl, rfl, rfl, rfl, rfl, rfl⟩

/-- What a channel holds after a push. -/
theorem push_channels (hub : Realtime) (channel : Nat) (event : ClientEvent) :
    (∀ other, other ≠ channel → (hub.push channel event).channels other = hub.channels other) ∧
      (hub.push channel event).channels channel =
        hub.channels channel ++ if 0 < hub.receiverCount channel then [event] else [] := by
  unfold push
  by_cases attended : 0 < hub.receiverCount channel
  · rw [if_pos attended, if_pos attended]
    exact ⟨fun other apart => Function.update_of_ne apart .., Function.update_self ..⟩
  · rw [if_neg attended, if_neg attended, List.append_nil]
    exact ⟨fun other apart => rfl, rfl⟩

/-- What is sent to a recipient comes to the rings of their open streams, and to no others. -/
theorem Wired.pushed (wired : hub.Wired) {channel : Nat}
    (found : hub.registry recipientId = some channel) (event : ClientEvent)
    (member : stream ∈ hub.streams) (receiving : stream.receiving = true) :
    (hub.push channel event).channels stream.channel = hub.channels stream.channel ++
      if recipientId = stream.recipientId then [event] else [] := by
  obtain ⟨others, own⟩ := push_channels hub channel event
  have registered := wired.registered stream member receiving
  by_cases mine : recipientId = stream.recipientId
  · rw [← mine, found] at registered
    obtain rfl : channel = stream.channel := Option.some.inj registered
    have attended : 0 < hub.receiverCount stream.channel :=
      (wired.receivers found).mpr ⟨stream, member, receiving, mine.symm⟩
    rw [own, if_pos attended, if_pos mine]
  · have apart : stream.channel ≠ channel := by
      intro same
      rw [← same] at found
      exact mine (wired.own stream member _ found)
    rw [others _ apart, if_neg mine, List.append_nil]

/-- Pushing on a registered channel. -/
theorem Wired.push (wired : hub.Wired) {channel : Nat}
    (found : hub.registry recipientId = some channel) (event : ClientEvent) :
    (hub.push channel event).Wired := by
  obtain ⟨registry, fresh, streams, -⟩ := push_keeps hub channel event
  obtain ⟨stream, member, -, same⟩ := wired.attended recipientId channel found
  have bound := wired.made stream member
  constructor
  · rw [registry, streams]
    exact wired.registered
  · rw [registry, streams]
    exact wired.own
  · rw [registry, streams]
    exact wired.attended
  · rw [fresh, streams]
    exact wired.made
  · intro other unmade
    rw [fresh] at unmade
    rw [(push_channels hub channel event).1 other (by omega)]
    exact wired.blank other unmade

/-- Opening a stream keeps every channel registered. -/
theorem subscribe_registry (recipientId : Uuid) {other : Uuid} {channel : Nat}
    (registered : hub.registry other = some channel) :
    (hub.subscribe recipientId).registry other = some channel := by
  show Function.update hub.registry recipientId _ other = some channel
  by_cases own : other = recipientId
  · subst own
    rw [Function.update_self, entry, registered]
  · rw [Function.update_of_ne own]
    exact registered

/-- A new stream, on the channel registered for its recipient or on a new one. -/
theorem Wired.subscribe (wired : hub.Wired) (recipientId : Uuid) :
    (hub.subscribe recipientId).Wired := by
  have same : ∀ other, other ≠ recipientId →
      (hub.subscribe recipientId).registry other = hub.registry other := by
    intro other apart
    exact Function.update_of_ne apart ..
  have own : (hub.subscribe recipientId).registry recipientId = some (hub.entry recipientId) :=
    Function.update_self ..
  have opened : hub.opening recipientId (hub.entry recipientId) ∈
      (hub.subscribe recipientId).streams := List.mem_append_right _ List.mem_cons_self
  -- The channel is the recipient's own, or one that is nobody's yet.
  have entry : hub.registry recipientId = some (hub.entry recipientId) ∨
      hub.entry recipientId = hub.fresh ∧ hub.registry recipientId = none := by
    unfold Realtime.entry
    cases hub.registry recipientId with
    | some channel => exact Or.inl rfl
    | none => exact Or.inr ⟨rfl, rfl⟩
  have grown : hub.fresh ≤ (hub.subscribe recipientId).fresh := by
    show hub.fresh ≤ if (hub.registry recipientId).isNone then hub.fresh + 1 else hub.fresh
    split <;> omega
  refine ⟨?_, ?_, ?_, ?_, ?_⟩
  · intro stream member receiving
    rcases List.mem_append.mp member with old | new
    · have registered := wired.registered stream old receiving
      by_cases mine : stream.recipientId = recipientId
      · rw [mine] at registered ⊢
        rw [own, Realtime.entry, registered]
      · rw [same _ mine]
        exact registered
    · rw [List.mem_singleton] at new
      subst new
      exact own
  · intro stream member other found
    rcases List.mem_append.mp member with old | new
    · by_cases mine : other = recipientId
      · subst mine
        rw [own, Option.some.injEq] at found
        rcases entry with registered | ⟨fresh, -⟩
        · rw [found] at registered
          exact wired.own stream old other registered
        · have bound := wired.made stream old
          omega
      · rw [same other mine] at found
        exact wired.own stream old other found
    · rw [List.mem_singleton] at new
      subst new
      by_cases mine : other = recipientId
      · exact mine
      · rw [same other mine] at found
        obtain ⟨stream, old, theirs, channel⟩ := wired.attended other _ found
        rcases entry with registered | ⟨fresh, -⟩
        · have mine' : recipientId = stream.recipientId := by
            apply wired.own stream old
            rw [registered, channel]
            rfl
          exact (theirs.symm.trans mine'.symm)
        · have bound := wired.made stream old
          have unmade : stream.channel = hub.fresh := channel.trans fresh
          omega
  · intro other channel found
    by_cases mine : other = recipientId
    · subst mine
      rw [own, Option.some.injEq] at found
      exact ⟨_, opened, rfl, found⟩
    · rw [same other mine] at found
      obtain ⟨stream, old, theirs⟩ := wired.attended other channel found
      exact ⟨stream, List.mem_append_left _ old, theirs⟩
  · intro stream member
    rcases List.mem_append.mp member with old | new
    · exact Nat.lt_of_lt_of_le (wired.made stream old) grown
    · rw [List.mem_singleton] at new
      subst new
      rcases entry with registered | ⟨fresh, none_⟩
      · obtain ⟨stream, old, -, channel⟩ := wired.attended recipientId _ registered
        have bound := wired.made stream old
        rw [channel] at bound
        exact Nat.lt_of_lt_of_le bound grown
      · show hub.entry recipientId <
          if (hub.registry recipientId).isNone then hub.fresh + 1 else hub.fresh
        rw [fresh, none_]
        exact Nat.lt_succ_self _
  · intro channel unmade
    exact wired.blank channel (Nat.le_trans grown unmade)

/-- A stream that goes on or ends where it stands. -/
theorem Wired.setStream (wired : hub.Wired) {index : Nat} {later : Stream}
    (there : hub.streams[index]? = some stream) (receiving : stream.receiving = true)
    (recipient : later.recipientId = stream.recipientId)
    (channel : later.channel = stream.channel) : (hub.setStream index later).Wired := by
  have member : stream ∈ hub.streams := List.mem_of_getElem? there
  have bound : index < hub.streams.length := (List.getElem?_eq_some_iff.mp there).1
  refine ⟨?_, ?_, ?_, ?_, wired.blank⟩
  · intro other inside open_
    rcases List.mem_or_eq_of_mem_set inside with old | rfl
    · exact wired.registered other old open_
    · rw [recipient, channel]
      exact wired.registered stream member receiving
  · intro other inside caller found
    rcases List.mem_or_eq_of_mem_set inside with old | rfl
    · exact wired.own other old caller found
    · rw [channel] at found
      rw [recipient]
      exact wired.own stream member caller found
  · intro caller number found
    obtain ⟨other, old, theirs, same⟩ := wired.attended caller number found
    obtain ⟨position, at_⟩ := List.mem_iff_getElem?.mp old
    by_cases here : index = position
    · subst here
      obtain rfl : stream = other := Option.some.inj (there.symm.trans at_)
      refine ⟨later, List.mem_iff_getElem?.mpr ⟨index, ?_⟩, recipient.trans theirs,
        channel.trans same⟩
      exact List.getElem?_set_self bound
    · refine ⟨other, List.mem_iff_getElem?.mpr ⟨position, ?_⟩, theirs, same⟩
      show (hub.streams.set index later)[position]? = some other
      rw [List.getElem?_set_ne here]
      exact at_
  · intro other inside
    rcases List.mem_or_eq_of_mem_set inside with old | rfl
    · exact wired.made other old
    · rw [channel]
      exact wired.made stream member

end Realtime

end SvcNotifier
