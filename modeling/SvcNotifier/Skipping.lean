import SvcNotifier.Rings

/-!
# Skipping the recipients nobody watches

`dispatch` first asks whether anybody watches its recipient, and otherwise does nothing. A
listener that dispatches every signal to its end serves every stream the same: in its run the
signals that were skipped are dispatched where they were skipped, and reach no stream.
-/

namespace SvcNotifier

open Library Program

/-- A dispatch without its check: as if it had found its recipient active. -/
def unchecked : Dispatch → Dispatch
  | .call (.active _) next => next true
  | program => program

namespace Realtime

/-- The signal that has been taken is dispatched without the check. -/
def uncheck (hub : Realtime) : Realtime :=
  { hub with dispatching := hub.dispatching.map fun taken => (taken.1, unchecked taken.2) }

/-- One step with a listener that always dispatches. -/
def stepAlways (hub : Realtime) : Action → Option Realtime
  | .receive => (hub.step .receive).map uncheck
  | action => hub.step action

/-- What others see of a step: the calls of a dispatch are the listener's own. -/
def Action.shows : Action → List Action
  | .run _ => []
  | action => [action]

variable {hub after other later : Realtime} {signal : NotificationSignal} {event : ClientEvent}
  {initial : List Row}

/-! ## The programs -/

/-- A dispatch asks, and goes on or returns. -/
theorem dispatch_eq (signal : NotificationSignal) :
    ∃ next, dispatch signal = .call (.active signal.recipientId) next ∧
      next true = unchecked (dispatch signal) ∧ next false = .done ⟨⟩ := ⟨_, rfl, rfl, rfl⟩

/-- A signal that needs no re-read is delivered. -/
theorem unchecked_of_event (told : signal.event = some event) :
    unchecked (dispatch signal) = deliver signal.recipientId event := by
  cases signal with
  | added recipientId id => contradiction
  | read recipientId ids readAt =>
    obtain rfl := Option.some.inj told
    rfl
  | deleted recipientId ids =>
    obtain rfl := Option.some.inj told
    rfl

/-- An `Added` is re-read, and what is found is delivered. -/
theorem unchecked_added (recipientId id : Uuid) :
    ∃ next, unchecked (dispatch (.added recipientId id)) =
        .call (.readNotificationFor recipientId id) next ∧
      (∀ notification, next (.ok (some notification)) =
        deliver recipientId (.added notification)) ∧
      next (.ok none) = .done ⟨⟩ ∧ ∀ error, next (.error error) = .done ⟨⟩ :=
  ⟨_, rfl, fun _ => rfl, rfl, fun _ => rfl⟩

/-- A delivery looks its channel up, and sends. -/
theorem deliver_eq (recipientId : Uuid) (event : ClientEvent) :
    ∃ next, deliver recipientId event = .call (.sender recipientId) next ∧
      next none = .done ⟨⟩ ∧
      ∀ channel, next (some channel) = .call (.send channel event) fun _ => .done ⟨⟩ :=
  ⟨_, rfl, rfl, fun _ => rfl⟩

/-- The next call of a dispatch. -/
theorem stepAlways_run {request : HubCall} {next : request.Reply → Dispatch}
    (at_ : other.dispatching = some (signal, .call request next)) (failure : Option SqlxError) :
    other.stepAlways (.run failure) =
      some ((other.perform signal request (other.answer failure request)).resume
        (some (signal, next (other.answer failure request)))) := by
  show other.step (.run failure) = _
  simp only [step, at_]

/-! ## Signals that reach nobody -/

/-- Only the dispatch has gone on. -/
structure Unmoved (other later : Realtime) : Prop where
  /-- The database has not changed. -/
  store : later.store = other.store
  /-- The listener has taken nothing. -/
  position : later.position = other.position
  /-- Nobody has been registered or evicted. -/
  registry : later.registry = other.registry
  /-- Nothing has been sent. -/
  channels : later.channels = other.channels
  /-- No channel has been made. -/
  fresh : later.fresh = other.fresh
  /-- No stream has been opened, read or closed. -/
  streams : later.streams = other.streams

/-- A dispatch that goes on twice moves nothing else. -/
theorem Unmoved.trans {middle : Realtime} (first : Unmoved other middle)
    (second : Unmoved middle later) : Unmoved other later where
  store := second.store.trans first.store
  position := second.position.trans first.position
  registry := second.registry.trans first.registry
  channels := second.channels.trans first.channels
  fresh := second.fresh.trans first.fresh
  streams := second.streams.trans first.streams

/-- The dispatch runs to its end, and nobody but the listener notices. -/
def RunsOut (other : Realtime) (signal : NotificationSignal) : Prop :=
  ∃ actions later, Steps stepAlways anyStep other actions later ∧
    actions.flatMap Action.shows = [] ∧ Unmoved other later ∧
    later.dispatching = some (signal, .done ⟨⟩)

/-- One call that nobody notices, and the rest. -/
theorem RunsOut.call {middle : Realtime} (rest : middle.RunsOut signal)
    {failure : Option SqlxError} (called : other.stepAlways (.run failure) = some middle)
    (unmoved : Unmoved other middle) : other.RunsOut signal := by
  obtain ⟨actions, later, run, hidden, still, ended⟩ := rest
  exact ⟨.run failure :: actions, later, .next trivial called run, hidden, unmoved.trans still,
    ended⟩

/-- A dispatch that has returned. -/
theorem runsOut_of_done (ended : other.dispatching = some (signal, .done ⟨⟩)) :
    other.RunsOut signal :=
  ⟨[], other, .refl other, rfl, ⟨rfl, rfl, rfl, rfl, rfl, rfl⟩, ended⟩

/-- Sending to a recipient nobody watches. -/
theorem runsOut_of_send (wired : other.Wired) (unwatched : ¬ other.Watched signal.recipientId)
    {channel : Nat} (found : other.registry signal.recipientId = some channel)
    (at_ : other.dispatching = some (signal, .call (.send channel event) fun _ => .done ⟨⟩)) :
    other.RunsOut signal := by
  have nobody : ¬ 0 < other.receiverCount channel := fun some_ =>
    unwatched ((wired.receivers found).mp some_)
  have pushed : other.push channel event = other := by
    unfold push
    rw [if_neg nobody]
  have called := stepAlways_run at_ none
  refine RunsOut.call (runsOut_of_done rfl) called ?_
  show Unmoved other (((other.push channel event).record signal (.sent event)).resume _)
  rw [pushed]
  exact ⟨rfl, rfl, rfl, rfl, rfl, rfl⟩

/-- Delivering to a recipient nobody watches. -/
theorem runsOut_of_deliver (wired : other.Wired) (unwatched : ¬ other.Watched signal.recipientId)
    (at_ : other.dispatching = some (signal, deliver signal.recipientId event)) :
    other.RunsOut signal := by
  obtain ⟨next, program, onNone, onSome⟩ := deliver_eq signal.recipientId event
  rw [program] at at_
  have called := stepAlways_run at_ none
  cases found : other.registry signal.recipientId with
  | none =>
    have answered : other.answer none (.sender signal.recipientId) = none := found
    rw [answered, onNone] at called
    exact RunsOut.call (runsOut_of_done rfl) called ⟨rfl, rfl, rfl, rfl, rfl, rfl⟩
  | some channel =>
    have answered : other.answer none (.sender signal.recipientId) = some channel := found
    rw [answered, onSome] at called
    refine RunsOut.call ?_ called ⟨rfl, rfl, rfl, rfl, rfl, rfl⟩
    exact runsOut_of_send (wired.aside rfl rfl rfl rfl) unwatched found rfl

/-- Dispatching to a recipient nobody watches. -/
theorem runsOut_of_unchecked (wired : other.Wired)
    (unwatched : ¬ other.Watched signal.recipientId)
    (at_ : other.dispatching = some (signal, unchecked (dispatch signal))) :
    other.RunsOut signal := by
  cases told : signal.event with
  | some event =>
    rw [unchecked_of_event told] at at_
    exact runsOut_of_deliver wired unwatched at_
  | none =>
    cases signal with
    | read recipientId ids readAt => contradiction
    | deleted recipientId ids => contradiction
    | added recipientId id =>
      obtain ⟨next, program, onFound, onGone, onError⟩ := unchecked_added recipientId id
      rw [program] at at_
      have called := stepAlways_run at_ none
      cases answered : other.answer none (.readNotificationFor recipientId id) with
      | error error =>
        rw [answered, onError] at called
        exact RunsOut.call (runsOut_of_done rfl) called ⟨rfl, rfl, rfl, rfl, rfl, rfl⟩
      | ok found =>
        cases found with
        | none =>
          rw [answered, onGone] at called
          exact RunsOut.call (runsOut_of_done rfl) called ⟨rfl, rfl, rfl, rfl, rfl, rfl⟩
        | some notification =>
          rw [answered, onFound] at called
          refine RunsOut.call ?_ called ⟨rfl, rfl, rfl, rfl, rfl, rfl⟩
          exact runsOut_of_deliver (wired.aside rfl rfl rfl rfl) unwatched rfl

/-! ## The two listeners side by side -/

/-- Two streams that have been served the same, and have the same to receive. -/
structure Same (channels mirrored : Nat → List ClientEvent) (stream image : Stream) : Prop where
  /-- They are of one recipient. -/
  recipientId : image.recipientId = stream.recipientId
  /-- They have served the same. -/
  items : image.items = stream.items
  /-- They are open, or both have ended. -/
  receiving : image.receiving = stream.receiving
  /-- Neither has taken more than was sent. -/
  bounds : stream.receiving = true → stream.next ≤ (channels stream.channel).length ∧
    image.next ≤ (mirrored image.channel).length
  /-- They have the same to receive. -/
  unread : stream.receiving = true →
    (mirrored image.channel).drop image.next = (channels stream.channel).drop stream.next

/-- What is left of a dispatch, and of the one without its check. -/
inductive Echo (registry mirrored : Uuid → Option Nat) (signal : NotificationSignal) :
    Dispatch → Dispatch → Prop where
  /-- The check is about to be made; the other is past it. -/
  | asks : Echo registry mirrored signal (dispatch signal) (unchecked (dispatch signal))
  /-- Both are about to re-read the row. -/
  | rereads {recipientId id : Uuid} (isAdded : signal = .added recipientId id) :
      Echo registry mirrored signal (unchecked (dispatch signal)) (unchecked (dispatch signal))
  /-- Both are about to look for the channel. -/
  | delivers {event : ClientEvent} :
      Echo registry mirrored signal (deliver signal.recipientId event)
        (deliver signal.recipientId event)
  /-- Both are about to send the event, each on its channel. -/
  | sends {channel image : Nat} {event : ClientEvent}
      (found : registry signal.recipientId = some channel)
      (also : mirrored signal.recipientId = some image) :
      Echo registry mirrored signal (.call (.send channel event) fun _ => .done ⟨⟩)
        (.call (.send image event) fun _ => .done ⟨⟩)
  /-- Both are over. -/
  | returns : Echo registry mirrored signal (.done ⟨⟩) (.done ⟨⟩)

/-- A hub, and one whose listener always dispatches. -/
structure Mirrors (hub other : Realtime) : Prop where
  /-- There is one database. -/
  store : other.store = hub.store
  /-- Both listeners have taken as much. -/
  position : other.position = hub.position
  /-- The registry of the other is in order. -/
  wired : other.Wired
  /-- Whoever is registered here is registered there. -/
  registered : ∀ recipientId channel, hub.registry recipientId = some channel →
    ∃ image, other.registry recipientId = some image
  /-- They have the same streams. -/
  length : other.streams.length = hub.streams.length
  /-- Each stream has served and receives the same. -/
  streams : ∀ (index : Nat) (stream image : Stream), hub.streams[index]? = some stream →
    other.streams[index]? = some image → Same hub.channels other.channels stream image
  /-- They are idle, or at the same point of a dispatch. -/
  dispatching : hub.dispatching = none ∧ other.dispatching = none ∨
    ∃ signal program image, hub.dispatching = some (signal, program) ∧
      other.dispatching = some (signal, image) ∧
      Echo hub.registry other.registry signal program image

/-- Every stream has its image. -/
theorem Mirrors.image (mirrors : hub.Mirrors other) {index : Nat} {stream : Stream}
    (there : hub.streams[index]? = some stream) :
    ∃ image, other.streams[index]? = some image ∧
      Same hub.channels other.channels stream image := by
  have inside : index < other.streams.length := by
    rw [mirrors.length]
    exact (List.getElem?_eq_some_iff.mp there).1
  have found := List.getElem?_eq_getElem inside
  exact ⟨_, found, mirrors.streams index stream _ there found⟩

/-- The two hubs have the same recipients watched. -/
theorem Mirrors.unwatched (mirrors : hub.Mirrors other) {recipientId : Uuid}
    (nobody : ¬ hub.Watched recipientId) : ¬ other.Watched recipientId := by
  rintro ⟨image, member, receiving, own⟩
  obtain ⟨index, there⟩ := List.mem_iff_getElem?.mp member
  have inside : index < hub.streams.length := by
    rw [← mirrors.length]
    exact (List.getElem?_eq_some_iff.mp there).1
  have found := List.getElem?_eq_getElem inside
  have same := mirrors.streams index _ image found there
  refine nobody ⟨hub.streams[index], List.getElem_mem inside, ?_, ?_⟩
  · rw [← same.receiving]
    exact receiving
  · rw [← same.recipientId]
    exact own

/-- Both hubs go on with what they dispatch; nothing has been sent. -/
theorem Mirrors.goesOn (mirrors : hub.Mirrors other) {program image : Dispatch}
    (store : after.store = hub.store) (position : after.position = hub.position)
    (registry : ∀ recipientId channel, after.registry recipientId = some channel →
      hub.registry recipientId = some channel)
    (channels : after.channels = hub.channels) (streams : after.streams = hub.streams)
    (unmoved : Unmoved other later) (at_ : after.dispatching = some (signal, program))
    (also : later.dispatching = some (signal, image))
    (echo : Echo after.registry later.registry signal program image) : after.Mirrors later where
  store := unmoved.store.trans (mirrors.store.trans store.symm)
  position := unmoved.position.trans (mirrors.position.trans position.symm)
  wired := mirrors.wired.aside unmoved.registry unmoved.channels unmoved.fresh unmoved.streams
  registered := by
    intro recipientId channel found
    rw [unmoved.registry]
    exact mirrors.registered recipientId channel (registry recipientId channel found)
  length := by
    rw [unmoved.streams, streams]
    exact mirrors.length
  streams := by
    intro index stream image there found
    rw [streams] at there
    rw [unmoved.streams] at found
    rw [channels, unmoved.channels]
    exact mirrors.streams index stream image there found
  dispatching := Or.inr ⟨signal, program, image, at_, also, echo⟩

/-- A dispatch that runs out mirrors one that has returned. -/
theorem Mirrors.runsOut (mirrors : hub.Mirrors other) (out : other.RunsOut signal)
    (store : after.store = hub.store) (position : after.position = hub.position)
    (registry : ∀ recipientId channel, after.registry recipientId = some channel →
      hub.registry recipientId = some channel)
    (channels : after.channels = hub.channels) (streams : after.streams = hub.streams)
    (at_ : after.dispatching = some (signal, .done ⟨⟩)) :
    ∃ actions later, Steps stepAlways anyStep other actions later ∧
      actions.flatMap Action.shows = [] ∧ after.Mirrors later := by
  obtain ⟨actions, later, run, hidden, unmoved, ended⟩ := out
  exact ⟨actions, later, run, hidden,
    mirrors.goesOn store position registry channels streams unmoved at_ ended .returns⟩

/-- Both hubs make a call that sends nothing. -/
theorem Mirrors.called (mirrors : hub.Mirrors other) {failure : Option SqlxError}
    {program image : Dispatch} (store : after.store = hub.store)
    (position : after.position = hub.position)
    (registry : ∀ recipientId channel, after.registry recipientId = some channel →
      hub.registry recipientId = some channel)
    (channels : after.channels = hub.channels) (streams : after.streams = hub.streams)
    (called : other.stepAlways (.run failure) = some later) (unmoved : Unmoved other later)
    (at_ : after.dispatching = some (signal, program))
    (also : later.dispatching = some (signal, image))
    (echo : Echo after.registry later.registry signal program image) :
    ∃ actions later, Steps stepAlways anyStep other actions later ∧
      actions.flatMap Action.shows = [] ∧ after.Mirrors later :=
  ⟨[.run failure], later, .next trivial called (.refl later), rfl,
    mirrors.goesOn store position registry channels streams unmoved at_ also echo⟩

/-- What a listener may go on with where it has found its recipient active. -/
theorem echo_unchecked (registry mirrored : Uuid → Option Nat) (signal : NotificationSignal) :
    Echo registry mirrored signal (unchecked (dispatch signal)) (unchecked (dispatch signal)) := by
  cases told : signal.event with
  | some event =>
    rw [unchecked_of_event told]
    exact .delivers
  | none =>
    cases signal with
    | added recipientId id => exact .rereads rfl
    | read recipientId ids readAt => contradiction
    | deleted recipientId ids => contradiction

/-- A sender that is held is still registered while channels are added. -/
theorem Echo.mono {registry mirrored registry' mirrored' : Uuid → Option Nat}
    {program image : Dispatch} (echo : Echo registry mirrored signal program image)
    (kept : ∀ recipientId channel, registry recipientId = some channel →
      registry' recipientId = some channel)
    (also : ∀ recipientId channel, mirrored recipientId = some channel →
      mirrored' recipientId = some channel) : Echo registry' mirrored' signal program image := by
  cases echo with
  | asks => exact .asks
  | rereads isAdded => exact .rereads isAdded
  | delivers => exact .delivers
  | sends found mirrored => exact .sends (kept _ _ found) (also _ _ mirrored)
  | returns => exact .returns

/-- Where one listener is idle, so is the other. -/
theorem Mirrors.idle (mirrors : hub.Mirrors other) (idle : hub.dispatching = none) :
    other.dispatching = none := by
  rcases mirrors.dispatching with ⟨-, also⟩ | ⟨signal, program, image, at_, -⟩
  · exact also
  · rw [idle] at at_
    contradiction

/-- The dispatch has asked whether anybody watches. -/
theorem Mirrors.asked (mirrors : hub.Mirrors other) (wired : hub.Wired)
    {failure : Option SqlxError} {request : HubCall} {next : request.Reply → Dispatch}
    (asks : dispatch signal = .call request next)
    (also : other.dispatching = some (signal, unchecked (dispatch signal))) :
    ∃ actions later, Steps stepAlways anyStep other actions later ∧
      actions.flatMap Action.shows = [] ∧
      ((hub.perform signal request (hub.answer failure request)).resume
        (some (signal, next (hub.answer failure request)))).Mirrors later := by
  obtain ⟨rest, asked, onTrue, onFalse⟩ := dispatch_eq signal
  cases asked.symm.trans asks
  cases active : hub.isActive signal.recipientId with
  | true =>
    have answered : hub.answer failure (.active signal.recipientId) = true := active
    rw [answered, onTrue]
    refine ⟨[], other, .refl other, rfl, ?_⟩
    have still : Unmoved other other := ⟨rfl, rfl, rfl, rfl, rfl, rfl⟩
    exact mirrors.goesOn rfl rfl (fun _ _ found => found) rfl rfl still rfl also
      (echo_unchecked _ _ signal)
  | false =>
    have answered : hub.answer failure (.active signal.recipientId) = false := active
    have nobody : ¬ hub.Watched signal.recipientId := by
      rw [← wired.active, active]
      exact Bool.false_ne_true
    have out := runsOut_of_unchecked mirrors.wired (mirrors.unwatched nobody) also
    rw [answered, onFalse]
    refine mirrors.runsOut out rfl rfl ?_ rfl rfl rfl
    intro recipientId channel found
    by_cases evicted : recipientId = signal.recipientId
    · rw [evicted] at found
      have gone : (hub.evict signal.recipientId).registry signal.recipientId = none :=
        Function.update_self ..
      exact absurd (gone.symm.trans found) (Option.some_ne_none channel).symm
    · have same : (hub.evict signal.recipientId).registry recipientId =
          hub.registry recipientId := Function.update_of_ne evicted ..
      exact same.symm.trans found

/-- Both listeners re-read the row of an `Added`, and read the same. -/
theorem Mirrors.reread (mirrors : hub.Mirrors other) {failure : Option SqlxError}
    {recipientId id : Uuid} {request : HubCall} {next : request.Reply → Dispatch}
    (isAdded : signal = .added recipientId id)
    (asks : unchecked (dispatch signal) = .call request next)
    (also : other.dispatching = some (signal, unchecked (dispatch signal))) :
    ∃ actions later, Steps stepAlways anyStep other actions later ∧
      actions.flatMap Action.shows = [] ∧
      ((hub.perform signal request (hub.answer failure request)).resume
        (some (signal, next (hub.answer failure request)))).Mirrors later := by
  subst isAdded
  obtain ⟨rest, asked, onFound, onGone, onError⟩ := unchecked_added recipientId id
  cases asked.symm.trans asks
  rw [asked] at also
  have called := stepAlways_run also failure
  have same : other.answer failure (.readNotificationFor recipientId id) =
      hub.answer failure (.readNotificationFor recipientId id) := by
    unfold answer
    rw [mirrors.store]
  rw [same] at called
  cases answered : hub.answer failure (.readNotificationFor recipientId id) with
  | error error =>
    rw [answered, onError] at called
    rw [onError]
    exact mirrors.called rfl rfl (fun _ _ found => found) rfl rfl called
      ⟨rfl, rfl, rfl, rfl, rfl, rfl⟩ rfl rfl .returns
  | ok found =>
    cases found with
    | none =>
      rw [answered, onGone] at called
      rw [onGone]
      exact mirrors.called rfl rfl (fun _ _ found => found) rfl rfl called
        ⟨rfl, rfl, rfl, rfl, rfl, rfl⟩ rfl rfl .returns
    | some notification =>
      rw [answered, onFound] at called
      rw [onFound]
      exact mirrors.called rfl rfl (fun _ _ found => found) rfl rfl called
        ⟨rfl, rfl, rfl, rfl, rfl, rfl⟩ rfl rfl .delivers

/-- Both listeners look the channel up; where one finds none, nobody watches. -/
theorem Mirrors.lookup (mirrors : hub.Mirrors other) (wired : hub.Wired)
    {failure : Option SqlxError} {request : HubCall} {next : request.Reply → Dispatch}
    (asks : deliver signal.recipientId event = .call request next)
    (also : other.dispatching = some (signal, deliver signal.recipientId event)) :
    ∃ actions later, Steps stepAlways anyStep other actions later ∧
      actions.flatMap Action.shows = [] ∧
      ((hub.perform signal request (hub.answer failure request)).resume
        (some (signal, next (hub.answer failure request)))).Mirrors later := by
  obtain ⟨rest, asked, onNone, onSome⟩ := deliver_eq signal.recipientId event
  cases asked.symm.trans asks
  cases found : hub.registry signal.recipientId with
  | none =>
    have answered : hub.answer failure (.sender signal.recipientId) = none := found
    have nobody : ¬ hub.Watched signal.recipientId := by
      intro watched
      obtain ⟨stream, member, receiving, own⟩ := watched
      have registered := wired.registered stream member receiving
      rw [own, found] at registered
      contradiction
    have out := runsOut_of_deliver mirrors.wired (mirrors.unwatched nobody) also
    rw [answered, onNone]
    exact mirrors.runsOut out rfl rfl (fun _ _ found => found) rfl rfl rfl
  | some channel =>
    have answered : hub.answer failure (.sender signal.recipientId) = some channel := found
    obtain ⟨image, registered⟩ := mirrors.registered _ channel found
    have mirrored : other.answer failure (.sender signal.recipientId) = some image := registered
    rw [asked] at also
    have called := stepAlways_run also failure
    rw [mirrored, onSome] at called
    rw [answered, onSome]
    exact mirrors.called rfl rfl (fun _ _ found => found) rfl rfl called
      ⟨rfl, rfl, rfl, rfl, rfl, rfl⟩ rfl rfl (.sends found registered)

/-- An event that both listeners send comes to the same streams. -/
theorem Mirrors.pushed (mirrors : hub.Mirrors other) (wired : hub.Wired) {channel mirrored : Nat}
    (found : hub.registry signal.recipientId = some channel)
    (also : other.registry signal.recipientId = some mirrored) (event : ClientEvent)
    {index : Nat} {stream image : Stream} (there : hub.streams[index]? = some stream)
    (imaged : other.streams[index]? = some image) :
    Same (hub.push channel event).channels (other.push mirrored event).channels stream image := by
  have same := mirrors.streams index stream image there imaged
  have rings : stream.receiving = true →
      ∃ more, (hub.push channel event).channels stream.channel =
        hub.channels stream.channel ++ more ∧
      (other.push mirrored event).channels image.channel =
        other.channels image.channel ++ more := by
    intro receiving
    refine ⟨_, wired.pushed found event (List.mem_of_getElem? there) receiving, ?_⟩
    rw [← same.receiving] at receiving
    rw [mirrors.wired.pushed also event (List.mem_of_getElem? imaged) receiving, same.recipientId]
  refine ⟨same.recipientId, same.items, same.receiving, ?_, ?_⟩
  · intro receiving
    obtain ⟨more, ring, ringed⟩ := rings receiving
    obtain ⟨inside, within⟩ := same.bounds receiving
    rw [ring, ringed, List.length_append, List.length_append]
    constructor <;> omega
  · intro receiving
    obtain ⟨more, ring, ringed⟩ := rings receiving
    obtain ⟨inside, within⟩ := same.bounds receiving
    rw [ring, ringed, List.drop_append_of_le_length inside, List.drop_append_of_le_length within,
      same.unread receiving]

/-- Both listeners send. -/
theorem Mirrors.send (mirrors : hub.Mirrors other) (wired : hub.Wired) {channel mirrored : Nat}
    (found : hub.registry signal.recipientId = some channel)
    (registered : other.registry signal.recipientId = some mirrored)
    (also : other.dispatching = some (signal, .call (.send mirrored event) fun _ => .done ⟨⟩)) :
    ∃ actions later, Steps stepAlways anyStep other actions later ∧
      actions.flatMap Action.shows = [] ∧
      ((hub.perform signal (.send channel event) ()).resume
        (some (signal, .done ⟨⟩))).Mirrors later := by
  have called := stepAlways_run also none
  obtain ⟨registry, fresh, streams, dispatched, store, position⟩ := push_keeps hub channel event
  obtain ⟨registry', fresh', streams', dispatched', store', position'⟩ :=
    push_keeps other mirrored event
  refine ⟨[.run none], _, .next trivial called (.refl _), rfl, ?_⟩
  constructor
  · exact store'.trans (mirrors.store.trans store.symm)
  · exact position'.trans (mirrors.position.trans position.symm)
  · exact (mirrors.wired.push registered event).aside rfl rfl rfl rfl
  · show ∀ recipientId channel', (hub.push channel event).registry recipientId = some channel' →
      ∃ image, (other.push mirrored event).registry recipientId = some image
    rw [registry, registry']
    exact mirrors.registered
  · show (other.push mirrored event).streams.length = (hub.push channel event).streams.length
    rw [streams, streams']
    exact mirrors.length
  · show ∀ (index : Nat) (stream image : Stream),
      (hub.push channel event).streams[index]? = some stream →
      (other.push mirrored event).streams[index]? = some image →
      Same (hub.push channel event).channels (other.push mirrored event).channels stream image
    rw [streams, streams']
    intro index stream image there imaged
    exact mirrors.pushed wired found registered event there imaged
  · exact Or.inr ⟨signal, _, _, rfl, rfl, .returns⟩

/-- Every call of a dispatch is matched by calls of the dispatch without its check. -/
theorem Mirrors.run (mirrors : hub.Mirrors other) (wired : hub.Wired)
    {failure : Option SqlxError} {request : HubCall} {next : request.Reply → Dispatch}
    (at_ : hub.dispatching = some (signal, .call request next)) :
    ∃ actions later, Steps stepAlways anyStep other actions later ∧
      actions.flatMap Action.shows = [] ∧
      ((hub.perform signal request (hub.answer failure request)).resume
        (some (signal, next (hub.answer failure request)))).Mirrors later := by
  rcases mirrors.dispatching with ⟨idle, -⟩ | ⟨signal', program, image, here, also, echo⟩
  · rw [at_] at idle
    contradiction
  · obtain ⟨rfl, same⟩ := Prod.mk.inj (Option.some.inj (at_.symm.trans here))
    generalize named : Program.call request next = call at same
    cases echo with
    | asks => exact mirrors.asked wired (same.symm.trans named.symm) also
    | rereads isAdded => exact mirrors.reread isAdded (same.symm.trans named.symm) also
    | delivers => exact mirrors.lookup wired (same.symm.trans named.symm) also
    | sends found registered =>
      cases named.trans same
      exact mirrors.send wired found registered also
    | returns => cases named.trans same

/-- Where one dispatch has returned, so has the other. -/
theorem Mirrors.returned (mirrors : hub.Mirrors other)
    (at_ : hub.dispatching = some (signal, .done ⟨⟩)) :
    other.dispatching = some (signal, .done ⟨⟩) := by
  rcases mirrors.dispatching with ⟨idle, -⟩ | ⟨signal', program, image, here, also, echo⟩
  · rw [at_] at idle
    contradiction
  · obtain ⟨rfl, same⟩ := Prod.mk.inj (Option.some.inj (at_.symm.trans here))
    generalize named : Program.done PUnit.unit = returned at same
    cases echo with
    | asks =>
      obtain ⟨next, asked, -⟩ := dispatch_eq signal
      cases (named.trans same).trans asked
    | @rereads recipientId id isAdded =>
      subst isAdded
      obtain ⟨next, asked, -⟩ := unchecked_added recipientId id
      cases (named.trans same).trans asked
    | @delivers event =>
      obtain ⟨next, asked, -⟩ := deliver_eq signal.recipientId event
      cases (named.trans same).trans asked
    | sends found registered => cases named.trans same
    | returns =>
      rw [← named]
      exact also

/-- A stream is opened on both hubs. -/
theorem Mirrors.subscribe (mirrors : hub.Mirrors other) (recipientId : Uuid) :
    (hub.subscribe recipientId).Mirrors (other.subscribe recipientId) := by
  constructor
  · exact mirrors.store
  · exact mirrors.position
  · exact mirrors.wired.subscribe recipientId
  · intro caller channel found
    by_cases own : caller = recipientId
    · rw [own]
      exact ⟨_, Function.update_self ..⟩
    · have same : (hub.subscribe recipientId).registry caller = hub.registry caller :=
        Function.update_of_ne own ..
      obtain ⟨image, registered⟩ := mirrors.registered caller channel (same.symm.trans found)
      exact ⟨image, subscribe_registry recipientId registered⟩
  · show (other.streams ++ [_]).length = (hub.streams ++ [_]).length
    rw [List.length_append, List.length_append, mirrors.length]
    rfl
  · show ∀ (index : Nat) (stream image : Stream), (hub.streams ++ [_])[index]? = some stream →
      (other.streams ++ [_])[index]? = some image → Same hub.channels other.channels stream image
    intro index stream image there imaged
    by_cases old : index < hub.streams.length
    · have also : index < other.streams.length := by
        rw [mirrors.length]
        exact old
      rw [List.getElem?_append_left old] at there
      rw [List.getElem?_append_left also] at imaged
      exact mirrors.streams index stream image there imaged
    · have last : index = hub.streams.length := by
        have bound := (List.getElem?_eq_some_iff.mp there).1
        rw [List.length_append, List.length_singleton] at bound
        omega
      rw [last, List.getElem?_concat_length] at there
      rw [last, ← mirrors.length, List.getElem?_concat_length] at imaged
      obtain rfl := Option.some.inj there
      obtain rfl := Option.some.inj imaged
      refine ⟨rfl, rfl, rfl, fun _ => ⟨Nat.le_refl _, Nat.le_refl _⟩, fun _ => ?_⟩
      show (other.channels (other.entry recipientId)).drop
          (other.channels (other.entry recipientId)).length =
        (hub.channels (hub.entry recipientId)).drop (hub.channels (hub.entry recipientId)).length
      rw [List.drop_length, List.drop_length]
  · rcases mirrors.dispatching with idle | ⟨signal, program, image, at_, also, echo⟩
    · exact Or.inl idle
    · exact Or.inr ⟨signal, program, image, at_, also,
        echo.mono (fun _ _ found => subscribe_registry recipientId found)
          (fun _ _ found => subscribe_registry recipientId found)⟩

/-- A stream goes on or ends the same on both hubs. -/
theorem Mirrors.setStream (mirrors : hub.Mirrors other) {index : Nat}
    {stream image polled mirrored : Stream} (there : hub.streams[index]? = some stream)
    (imaged : other.streams[index]? = some image) (receiving : stream.receiving = true)
    (continues : image.Continues mirrored)
    (same : Same hub.channels other.channels polled mirrored) :
    (hub.setStream index polled).Mirrors (other.setStream index mirrored) := by
  have bound : index < hub.streams.length := (List.getElem?_eq_some_iff.mp there).1
  have also : index < other.streams.length := (List.getElem?_eq_some_iff.mp imaged).1
  constructor
  · exact mirrors.store
  · exact mirrors.position
  · have open_ : image.receiving = true :=
      (mirrors.streams index stream image there imaged).receiving.trans receiving
    exact mirrors.wired.setStream imaged open_ continues.recipientId continues.channel
  · exact mirrors.registered
  · show (other.streams.set index mirrored).length = (hub.streams.set index polled).length
    rw [List.length_set, List.length_set]
    exact mirrors.length
  · show ∀ (position : Nat) (one two : Stream),
      (hub.streams.set index polled)[position]? = some one →
      (other.streams.set index mirrored)[position]? = some two →
      Same hub.channels other.channels one two
    intro position one two first second
    by_cases here : index = position
    · subst here
      rw [List.getElem?_set_self bound] at first
      rw [List.getElem?_set_self also] at second
      obtain rfl := Option.some.inj first
      obtain rfl := Option.some.inj second
      exact same
    · rw [List.getElem?_set_ne here] at first second
      exact mirrors.streams position one two first second
  · exact mirrors.dispatching

/-- A client is given the same by both hubs. -/
theorem Mirrors.polled (mirrors : hub.Mirrors other) {index : Nat} {stream polled : Stream}
    (there : hub.streams[index]? = some stream) (receiving : stream.receiving = true)
    (routed : hub.Routed initial) (given : hub.pollStream stream = some polled) :
    ∃ later, other.stepAlways (.poll index) = some later ∧
      (hub.setStream index polled).Mirrors later := by
  obtain ⟨image, imaged, same⟩ := mirrors.image there
  have open_ : image.receiving = true := same.receiving.trans receiving
  obtain ⟨inside, within⟩ := same.bounds receiving
  have rest := same.unread receiving
  have received : receive channelCapacity (other.channels image.channel) image.next =
      receive channelCapacity (hub.channels stream.channel) stream.next := by
    rw [receive_drop, rest, ← receive_drop]
  have stepped : ∀ mirrored, other.pollStream image = some mirrored →
      other.stepAlways (.poll index) = some (other.setStream index mirrored) := by
    intro mirrored polledToo
    show other.step (.poll index) = _
    simp only [step, imaged, open_, if_true, polledToo]
  obtain ⟨-, -, -, -, ⟨event, value, rfl⟩ | ⟨lost, value, rfl⟩⟩ :=
    routed.polled there receiving given
  · have polledToo : other.pollStream image = some (image.serve event) := by
      unfold pollStream
      rw [received, value]
    refine ⟨_, stepped _ polledToo, mirrors.setStream there imaged receiving
      ⟨rfl, rfl, rfl, rfl⟩ ?_⟩
    have next := (List.getElem?_eq_some_iff.mp (receive_value value).1).1
    have nextToo := (List.getElem?_eq_some_iff.mp (receive_value (received.trans value)).1).1
    refine ⟨same.recipientId, ?_, same.receiving, fun _ => ⟨next, nextToo⟩, fun _ => ?_⟩
    · show image.items ++ _ = stream.items ++ _
      rw [same.items]
    · show (other.channels image.channel).drop (image.next + 1) =
        (hub.channels stream.channel).drop (stream.next + 1)
      rw [← List.drop_drop, ← List.drop_drop, rest]
  · have polledToo : other.pollStream image = some (image.endOn (lagged lost)) := by
      unfold pollStream
      rw [received, value]
    refine ⟨_, stepped _ polledToo, mirrors.setStream there imaged receiving
      ⟨rfl, rfl, rfl, rfl⟩ ?_⟩
    refine ⟨same.recipientId, ?_, rfl, ?_, ?_⟩
    · show image.items ++ _ = stream.items ++ _
      rw [same.items]
    · intro closed
      contradiction
    · intro closed
      contradiction

/-- Forward simulation: every step is matched by steps of a listener that always dispatches, and
shows the same. -/
theorem mirrors_step {action : Action} (mirrors : hub.Mirrors other) (routed : hub.Routed initial)
    (stepped : hub.step action = some after) :
    ∃ actions later, Steps stepAlways anyStep other actions later ∧
      actions.flatMap Action.shows = action.shows ∧ after.Mirrors later := by
  have wired := mirrors.wired
  -- The other listener takes the same step.
  have alike : ∀ later, other.stepAlways action = some later → after.Mirrors later →
      [action].flatMap Action.shows = action.shows →
      ∃ actions later, Steps stepAlways anyStep other actions later ∧
        actions.flatMap Action.shows = action.shows ∧ after.Mirrors later :=
    fun later moved still shown =>
      ⟨[action], later, .next trivial moved (.refl later), shown, still⟩
  cases moves_of_step stepped with
  | @database moved store inDatabase =>
    apply alike { other with store := store } ?_ ?_ rfl
    · show other.step (.database moved) = _
      rw [← mirrors.store] at inDatabase
      simp only [step, inDatabase]
    · exact { mirrors with store := rfl, wired := wired.aside rfl rfl rfl rfl }
  | relisten idle =>
    have also := mirrors.idle idle
    apply alike { other with position := other.store.log.length } ?_ ?_ rfl
    · show other.step .relisten = _
      simp only [step, also]
    · have same : other.store.log.length = hub.store.log.length := by rw [mirrors.store]
      exact { mirrors with position := same, wired := wired.aside rfl rfl rfl rfl }
  | @receive signal idle notified =>
    have also := mirrors.idle idle
    rw [← mirrors.store, ← mirrors.position] at notified
    apply alike (uncheck { other with
      position := other.position + 1, dispatching := some (signal, dispatch signal) }) ?_ ?_ rfl
    · show (other.step .receive).map uncheck = _
      simp only [step, also, notified, Option.map_some]
    · have same : other.position + 1 = hub.position + 1 := by rw [mirrors.position]
      exact { mirrors with
        position := same
        wired := wired.aside rfl rfl rfl rfl
        dispatching := Or.inr ⟨signal, _, _, rfl, rfl, .asks⟩ }
  | run at_ => exact mirrors.run routed.wired at_
  | finish at_ =>
    have also := mirrors.returned at_
    apply alike (other.resume none) ?_ ?_ rfl
    · show other.step .finish = _
      simp only [step, also]
    · exact { mirrors with
        wired := wired.aside rfl rfl rfl rfl
        dispatching := Or.inl ⟨rfl, rfl⟩ }
  | @opens ctx caller accepted =>
    apply alike (other.subscribe caller) ?_ (mirrors.subscribe caller) rfl
    show other.step (.subscribe ctx) = _
    simp only [step, notifierNotificationEvents, accepted]
  | @refuses ctx error refused =>
    apply alike other ?_ mirrors rfl
    show other.step (.subscribe ctx) = _
    simp only [step, notifierNotificationEvents, refused]
  | poll there receiving given =>
    obtain ⟨later, moved, still⟩ := mirrors.polled there receiving routed given
    exact alike later moved still rfl
  | @close index stream there receiving =>
    obtain ⟨image, imaged, same⟩ := mirrors.image there
    have open_ : image.receiving = true := same.receiving.trans receiving
    apply alike (other.setStream index image.drop) ?_ ?_ rfl
    · show other.step (.close index) = _
      simp only [step, imaged, open_, if_true]
    · have continues : image.Continues image.drop := ⟨rfl, rfl, rfl, rfl⟩
      apply mirrors.setStream there imaged receiving continues
      refine ⟨same.recipientId, same.items, rfl, ?_, ?_⟩
      · intro closed
        contradiction
      · intro closed
        contradiction

/-- Both listeners start alike. -/
theorem start_mirrors (rows : List Row) : (start rows).Mirrors (start rows) := by
  refine ⟨rfl, rfl, start_wired rows, ?_, rfl, ?_, Or.inl ⟨rfl, rfl⟩⟩
  · intro recipientId channel absent
    contradiction
  · intro index stream image absent
    contradiction

/-- Every run is matched by one in which the listener always dispatches. -/
theorem mirrors_of_steps {table : Notifications} {actions : List Action}
    (run : Steps step anyStep (start table.rows) actions hub) :
    ∃ always other, Steps stepAlways anyStep (start table.rows) always other ∧
      always.flatMap Action.shows = actions.flatMap Action.shows ∧ hub.Mirrors other := by
  have simulates : ∀ (s : Realtime) (a : Action) (t u : Realtime),
      s.Routed table.rows ∧ s.Mirrors u → anyStep s a → s.step a = some t →
      ∃ bs v, Steps stepAlways anyStep u bs v ∧ bs.flatMap Action.shows = a.shows ∧
        (t.Routed table.rows ∧ t.Mirrors v) := by
    intro s a t u related _ stepped
    obtain ⟨routed, mirrors⟩ := related
    obtain ⟨bs, v, moved, shown, still⟩ := mirrors_step mirrors routed stepped
    exact ⟨bs, v, moved, shown, routed_step routed stepped, still⟩
  obtain ⟨always, other, moved, shown, -, mirrors⟩ :=
    run.simulated simulates ⟨start_routed table, start_mirrors table.rows⟩
  exact ⟨always, other, moved, shown, mirrors⟩

end Realtime

/-- The registry loses no stream, in any run. An open stream is on the channel registered for its
recipient, and a sender that a dispatch holds is of the channel registered for the signal's, so
that an open stream ends on a lag or not at all. What has been sent to it since it was opened is
the event of every signal of its recipient dispatched since, each once and in their order, and
none of these was skipped; and each dispatch that returns is of one signal and has settled it
once. A listener that always dispatches serves every stream the same: some run of it shows the
same steps and has the same streams. -/
theorem registry_loses_no_stream (table : Notifications) (actions : List Realtime.Action)
    (hub : Realtime)
    (run : Steps Realtime.step anyStep (Realtime.start table.rows) actions hub) :
    (∀ stream ∈ hub.streams, stream.receiving = true →
      hub.registry stream.recipientId = some stream.channel) ∧
    (∀ signal channel event next,
      hub.dispatching = some (signal, .call (.send channel event) next) →
      hub.registry signal.recipientId = some channel) ∧
    (∀ stream ∈ hub.streams, stream.receiving = true →
      ∀ polled, hub.pollStream stream = some polled →
        (∃ event, polled = stream.serve event) ∨ ∃ lost, polled = stream.endOn (lagged lost)) ∧
    (∀ stream ∈ hub.streams, stream.receiving = true →
      (∀ entry ∈ hub.due stream, entry.fate.Attended ∧ entry.Accounted) ∧
      (hub.channels stream.channel).drop stream.start = yielded (hub.due stream)) ∧
    (∀ busy after signal, hub.step .receive = some busy →
      Reaches Realtime.step (fun _ action => action ≠ .receive) busy after →
      after.dispatching = some (signal, .done ⟨⟩) →
      ∃ entry, after.dispatched = hub.dispatched ++ [entry] ∧ entry.signal = signal ∧
        entry.Accounted) ∧
    ∃ always other, Steps Realtime.stepAlways anyStep (Realtime.start table.rows) always other ∧
      always.flatMap Realtime.Action.shows = actions.flatMap Realtime.Action.shows ∧
      other.streams.length = hub.streams.length ∧
      ∀ (index : Nat) (stream image : Stream), hub.streams[index]? = some stream →
        other.streams[index]? = some image →
        Realtime.Same hub.channels other.channels stream image := by
  have reached : Reaches Realtime.step anyStep (Realtime.start table.rows) hub := ⟨actions, run⟩
  have routed := Realtime.routed_of_reaches reached
  have fed := Realtime.allFed_of_reaches reached
  refine ⟨routed.wired.registered, ?_, ?_, ?_, ?_, ?_⟩
  · intro signal channel event next at_
    obtain ⟨-, stand, ensures, fits, -⟩ := routed.dispatching signal _ at_
    have holding : stand = .holding channel event := ensures.1
    rw [holding] at fits
    exact fits.1
  · intro stream member receiving polled given
    obtain ⟨index, there⟩ := List.mem_iff_getElem?.mp member
    obtain ⟨-, -, -, -, ⟨event, -, served⟩ | ⟨lost, -, ended⟩⟩ :=
      routed.polled there receiving given
    · exact Or.inl ⟨event, served⟩
    · exact Or.inr ⟨lost, ended⟩
  · intro stream member receiving
    have live := fed stream member receiving
    refine ⟨fun entry due => ⟨live.attended entry due, routed.accounted entry ?_⟩, live.ring⟩
    exact List.mem_of_mem_drop (List.mem_filter.mp due).1
  · intro busy after signal taken during returned
    exact Realtime.settled_once reached taken during returned
  · obtain ⟨always, other, moved, shown, mirrors⟩ := Realtime.mirrors_of_steps run
    exact ⟨always, other, moved, shown, mirrors.length, mirrors.streams⟩

/-- The run of `sampleStreaming`, whose second signal is for a recipient nobody watches. -/
def sampleSkipping : List Realtime.Action :=
  .subscribe sampleReader :: sampleStreaming ++ [.receive, .run none, .finish]

/-- The hub `sampleSkipping` leads to. -/
def sampleUnwatched : Realtime :=
  (play Realtime.step (Realtime.start []) sampleSkipping).get (by decide)

/-- The second signal was skipped, and a listener that dispatches it serves the one stream what
it has been served. -/
theorem registry_loses_no_stream_sample :
    (∃ always other, Steps Realtime.stepAlways anyStep (Realtime.start []) always other ∧
      always.flatMap Realtime.Action.shows = sampleSkipping.flatMap Realtime.Action.shows ∧
      other.streams.length = sampleUnwatched.streams.length ∧
      ∀ (index : Nat) (stream image : Stream), sampleUnwatched.streams[index]? = some stream →
        other.streams[index]? = some image →
        Realtime.Same sampleUnwatched.channels other.channels stream image) ∧
    sampleUnwatched.dispatched.map (fun entry => entry.fate.event.isSome) = [true, false] ∧
    sampleUnwatched.streams.map (fun stream => stream.served.length) = [1] := by
  have run : Steps Realtime.step anyStep (Realtime.start []) sampleSkipping sampleUnwatched :=
    steps_of_play (Option.some_get _).symm
  have always := (registry_loses_no_stream .empty sampleSkipping sampleUnwatched run).2.2.2.2.2
  exact ⟨always, by decide, by decide⟩

end SvcNotifier
