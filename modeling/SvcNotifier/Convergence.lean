import SvcNotifier.Fold

/-!
# The reconnect protocol converges

While the listener keeps up with the log and no fact is lost, what a stream has been due since
it was opened tells of its recipient's rows what the log tells of them since. The nodes of a
walk that began later have each stood so since. So once everything is dispatched and read, the
fold of the stream over the walk is the recipient's list.
-/

namespace SvcNotifier

open Library Program

/-! ## What the log tells a recipient -/

/-- The facts of a signal are all for its recipient. -/
theorem NotificationSignal.recipient_of_facts {signal : NotificationSignal} {fact : Fact}
    (stated : fact ∈ signal.facts) : fact.recipientId = signal.recipientId := by
  cases signal with
  | added recipientId id =>
    rw [List.mem_singleton.mp stated]
    rfl
  | read recipientId ids readAt =>
    obtain ⟨id, -, rfl⟩ := List.mem_map.mp stated
    rfl
  | deleted recipientId ids =>
    obtain ⟨id, -, rfl⟩ := List.mem_map.mp stated
    rfl

namespace Store

variable {store : Store} {initial : List Row} {recipientId id : Uuid}

/-- Committed signals tell of a notification only to its owner. -/
theorem Rooted.owner_told (rooted : store.Rooted) (sound : Sound initial store)
    {signals : List NotificationSignal} (committed : signals ⊆ store.log) {kind : FactKind}
    (told : kind ∈ toldBy signals id) :
    ∃ signal ∈ signals, store.Owned signal.recipientId id := by
  have stated := mem_about.mp told
  obtain ⟨fact, inside, same⟩ := List.mem_map.mp stated
  obtain ⟨signal, member, states⟩ := List.mem_flatMap.mp inside
  have owned := rooted.announced sound (committed member) states
  have sameId : fact.id = id := congrArg Prod.snd same
  rw [NotificationSignal.recipient_of_facts states, sameId] at owned
  exact ⟨signal, member, owned⟩

/-- Of a recipient's notification, their own signals tell what all signals tell. -/
theorem Rooted.told_own (rooted : store.Rooted) (sound : Sound initial store)
    (single : store.Single) (owned : store.Owned recipientId id)
    {signals : List NotificationSignal} (committed : signals ⊆ store.log) :
    toldBy (signals.filter fun signal => signal.recipientId == recipientId) id =
      toldBy signals id := by
  induction signals with
  | nil => rfl
  | cons signal signals ih =>
    have first : signal ∈ store.log := committed List.mem_cons_self
    have rest : signals ⊆ store.log := fun _ member => committed (List.mem_cons_of_mem _ member)
    have whole : toldBy (signal :: signals) id = toldBy [signal] id ++ toldBy signals id :=
      toldBy_append [signal] signals id
    rw [whole, ← ih rest, List.filter_cons]
    by_cases own : signal.recipientId = recipientId
    · rw [if_pos (beq_iff_eq.mpr own)]
      exact toldBy_append [signal] _ id
    · have nothing : toldBy [signal] id = [] := by
        apply List.eq_nil_iff_forall_not_mem.mpr
        intro kind told
        have alone : [signal] ⊆ store.log := fun other member => by
          rw [List.mem_singleton.mp member]
          exact first
        obtain ⟨other, member, theirs⟩ := rooted.owner_told sound alone told
        rw [List.mem_singleton.mp member] at theirs
        exact own (single.owner theirs owned)
      rw [if_neg (fun same => own (beq_iff_eq.mp same)), nothing, List.nil_append]

/-- What the table says of a recipient's notification is where its row stands. -/
theorem Sound.current_of_status (sound : Sound initial store) (single : store.Single)
    (owned : store.Owned recipientId id) :
    current store.rows recipientId id = (store.status id).known := by
  unfold current
  cases found : anchorRow store.rows recipientId id with
  | some row =>
    obtain ⟨member, named⟩ := anchorRow_owned found
    have sameId : row.id = id := congrArg Prod.snd named
    rw [← sameId, sound.status_of_row member, Status.known_of]
    rfl
  | none =>
    have absent : ∀ row ∈ store.rows, row.owned ≠ (recipientId, id) := by
      intro row member named
      have passed := List.find?_eq_none.mp found row member
      obtain ⟨own, sameId⟩ := Prod.mk.inj named
      simp [own, sameId] at passed
    rw [sound.status_of_absent single owned absent]
    rfl

/-- The table says nothing of a notification that was never the recipient's. -/
theorem Sound.current_of_stranger (sound : Sound initial store)
    (stranger : ¬ store.Owned recipientId id) : current store.rows recipientId id = none := by
  unfold current
  cases found : anchorRow store.rows recipientId id with
  | none => rfl
  | some row =>
    obtain ⟨member, named⟩ := anchorRow_owned found
    have owned := sound.owned member
    obtain ⟨own, sameId⟩ := Prod.mk.inj named
    rw [own, sameId] at owned
    exact absurd owned stranger

variable {since : Nat} {status first : Status}

/-- Where a row has stood since a moment is on the trail from where it stood at it. -/
theorem StoodSince.on_trail (stood : store.StoodSince initial since id status)
    (before : notificationLifecycle.follow ((start initial).status id)
      (toldBy (store.log.take since) id) = some first) :
    status ∈ notificationLifecycle.trail first (store.toldSince since id) := by
  obtain ⟨other, found, member⟩ := stood
  have same : other = first := Option.some.inj (found.symm.trans before)
  rw [← same]
  exact member

/-- Where a row added since a moment has stood, it has stood since the moment. -/
theorem Recounted.since_added (recounted : Recounted initial store)
    (added : .added ∈ store.toldSince since id) (stood : Stood initial store id status) :
    store.StoodSince initial since id status := by
  obtain ⟨first, before, later⟩ := recounted.from_moment since id
  have absent : first = .absent := absent_of_added later added
  rw [absent] at before
  obtain ⟨nothing, never⟩ := nothing_of_absent before
  have told : store.told id = store.toldSince since id := by
    rw [told_split store since, nothing, List.nil_append]
  refine ⟨.absent, before, ?_⟩
  rw [Stood, never, told] at stood
  exact stood

end Store

/-! ## What the dispatches tell a client -/

section

variable {entry : Dispatched} {entries : List Dispatched} {id : Uuid} {initial : List Row}
  {store : Store}

/-- What an `Added` shows is where the row has stood. -/
theorem Dispatched.Dated.shown (dated : entry.Dated initial store) (accounted : entry.Accounted)
    {read : Bool} (inside : .added (some read) ∈ entry.changes id) :
    ∃ status, store.Stood initial id status ∧ status.known = some read := by
  obtain ⟨⟨recipientId, isAdded⟩, shows⟩ := added_of_changes inside
  obtain ⟨signal, fate, rows⟩ := entry
  obtain rfl : signal = .added recipientId id := isAdded
  cases fate with
  | sent event =>
    cases event with
    | added notification =>
      obtain rfl : notification.id = id := accounted
      have sameRead : read = notification.readAt.isSome := Option.some.inj shows
      refine ⟨.of notification.readAt, dated, ?_⟩
      rw [Status.known_of, sameRead]
    | _ => contradiction
  | _ => contradiction

/-- An `Added` that shows nothing is of a row that is gone. -/
theorem Dispatched.Dated.unshown (dated : entry.Dated initial store) (accounted : entry.Accounted)
    (told : (∃ event, entry.fate = .sent event) ∨ entry.fate = .gone)
    (inside : .added none ∈ entry.changes id) : store.Stood initial id .gone := by
  obtain ⟨⟨recipientId, isAdded⟩, shows⟩ := added_of_changes inside
  obtain ⟨signal, fate, rows⟩ := entry
  obtain rfl : signal = .added recipientId id := isAdded
  rcases told with ⟨event, sent⟩ | gone
  · obtain rfl : fate = .sent event := sent
    cases event with
    | added notification => contradiction
    | _ => exact False.elim accounted
  · obtain rfl : fate = .gone := gone
    exact dated recipientId id rfl

end

namespace Realtime

variable {hub after : Realtime} {stream : Stream} {initial : List Row}

/-- No more is dispatched than is committed. -/
theorem Recounts.behind (recounts : hub.Recounts initial) :
    hub.dispatched.length ≤ hub.store.log.length := by
  have within := recounts.within
  cases at_ : hub.dispatching with
  | none =>
    have order := congrArg List.length (recounts.idle at_)
    rw [List.length_map, List.length_take] at order
    omega
  | some underway =>
    obtain ⟨-, stand, -, -, order, -⟩ := recounts.underway _ _ at_
    have lengths := congrArg List.length order
    rw [List.length_append, List.length_map, List.length_take] at lengths
    omega

/-- The listener has dispatched every committed signal. -/
structure CaughtUp (hub : Realtime) : Prop where
  /-- No dispatch is under way. -/
  idle : hub.dispatching = none
  /-- The listener is at the end of the log. -/
  position : hub.position = hub.store.log.length

/-- Once everything is dispatched, a stream is due its recipient's signals committed since it
was opened. -/
theorem Recounts.due_signals (recounts : hub.Recounts initial) (caughtUp : hub.CaughtUp)
    (stream : Stream) :
    (hub.due stream).map Dispatched.signal = (hub.store.log.drop stream.since).filter
      fun signal => signal.recipientId == stream.recipientId := by
  have everything : hub.dispatched.map Dispatched.signal = hub.store.log := by
    rw [recounts.idle caughtUp.idle, caughtUp.position, List.take_length]
  rw [← everything, ← List.map_drop, List.filter_map]
  rfl

/-- The dispatches that a stream is due tell of the recipient's notification what the log tells
since. -/
theorem Recounts.due_tells (recounts : hub.Recounts initial) (routed : hub.Routed initial)
    (caughtUp : hub.CaughtUp) {id : Uuid} (owned : hub.store.Owned stream.recipientId id) :
    ((hub.due stream).flatMap fun entry => entry.changes id).map Change.kind =
      hub.store.toldSince stream.since id := by
  rw [kinds_of_all, recounts.due_signals caughtUp]
  exact routed.rooted.told_own routed.sound recounts.single owned (List.drop_subset _ _)

/-- The dispatches that a stream is due tell nothing of a notification that was never the
recipient's. -/
theorem Recounts.due_silent (recounts : hub.Recounts initial) (routed : hub.Routed initial)
    (caughtUp : hub.CaughtUp) {id : Uuid} (stranger : ¬ hub.store.Owned stream.recipientId id) :
    ((hub.due stream).flatMap fun entry => entry.changes id) = [] := by
  rw [← List.map_eq_nil_iff (f := Change.kind), kinds_of_all, recounts.due_signals caughtUp]
  apply List.eq_nil_iff_forall_not_mem.mpr
  intro kind told
  obtain ⟨signal, member, owned⟩ := routed.rooted.owner_told routed.sound
    (fun _ own => List.mem_of_mem_drop (List.mem_filter.mp own).1) told
  rw [beq_iff_eq.mp (List.mem_filter.mp member).2] at owned
  exact stranger owned

/-! ## The client -/

/-- A client has a stream of the caller open at an index, and has been given these nodes since. -/
def Given (initial : List Row) (caller : Uuid) (hub : Realtime) (index : Nat)
    (nodes : List NotificationNode) (remaining : DateTime ×ₗ Uuid → Prop) : Prop :=
  ∃ stream, hub.streams[index]? = some stream ∧ stream.recipientId = caller ∧
    Tracks initial caller stream.since nodes remaining hub.store

/-- What a client has been given, while the hub moves on. -/
theorem Given.step {action : Action} {caller : Uuid} {index : Nat} {nodes : List NotificationNode}
    {remaining : DateTime ×ₗ Uuid → Prop} (given : hub.Given initial caller index nodes remaining)
    (sound : Store.Sound initial hub.store) (single : hub.store.Single)
    (stepped : hub.step action = some after) :
    after.Given initial caller index nodes remaining := by
  obtain ⟨stream, there, own, tracks⟩ := given
  obtain ⟨later, still, continues⟩ := stream_step stepped there
  refine ⟨later, still, continues.recipientId.trans own, ?_⟩
  rw [continues.since]
  rcases store_step stepped with same | ⟨action, moved⟩
  · rw [same]
    exact tracks
  · exact tracks.step sound single moved

/-- Once everything is dispatched and read, the fold of an open stream over a walk that began
after it was opened says of every notification what the table says. -/
theorem Recounts.known_folded (recounts : hub.Recounts initial) (faithful : hub.Faithful initial)
    (caughtUp : hub.CaughtUp) (member : stream ∈ hub.streams) (receiving : stream.receiving = true)
    (consumed : stream.next = (hub.channels stream.channel).length)
    {nodes : List NotificationNode}
    (tracks : Tracks initial stream.recipientId stream.since nodes (fun _ => False) hub.store)
    (id : Uuid) :
    known (folded nodes stream.served) id =
      current hub.store.rows stream.recipientId id := by
  have routed := faithful.routed
  have sound := routed.sound
  have single := recounts.single
  have live := faithful.live stream member receiving
  have entries : ∀ entry ∈ hub.due stream, entry ∈ hub.dispatched := fun entry inside =>
    List.mem_of_mem_drop (List.mem_filter.mp inside).1
  have accounted : ∀ entry ∈ hub.due stream, entry.Accounted := fun entry inside =>
    routed.accounted entry (entries entry inside)
  have all : hub.taken stream = reckoned (hub.due stream) := by
    rw [taken, consumed, List.take_length, live.ring]
  rw [(routed.reads stream member).served, all, known_of_reckoned accounted live.whole]
  by_cases owned : hub.store.Owned stream.recipientId id
  · obtain ⟨first, before, followed⟩ := recounts.recounted.from_moment stream.since id
    have told := recounts.due_tells routed caughtUp owned
    rw [sound.current_of_status single owned]
    rw [← told] at followed
    apply known_of_changes followed
    · intro read held
      obtain ⟨node, inside, named, shows⟩ := known_eq_some held
      obtain ⟨-, stood⟩ := tracks.seen node inside
      rw [named] at stood
      refine ⟨.of node.readAt, ?_, ?_⟩
      · rw [told]
        exact stood.on_trail before
      · rw [Status.known_of, shows]
    · intro there unadded unknown
      obtain ⟨row, inside, named⟩ := Store.row_of_known there
      have theirs := sound.owned inside
      rw [named] at theirs
      rw [told, ← named] at unadded
      rcases tracks.complete row inside (single.owner theirs owned) unadded with shown | ahead
      · rw [named] at shown
        exact known_eq_none.mp unknown shown
      · exact ahead
    · intro read inside
      have added : .added ∈ hub.store.toldSince stream.since id := by
        rw [← told]
        exact List.mem_map_of_mem inside
      obtain ⟨entry, isDue, changes⟩ := List.mem_flatMap.mp inside
      obtain ⟨status, stood, shows⟩ :=
        (recounts.dated entry (entries entry isDue)).shown (accounted entry isDue) changes
      refine ⟨status, ?_, shows⟩
      rw [told]
      exact (recounts.recounted.since_added added stood).on_trail before
    · intro inside
      have added : .added ∈ hub.store.toldSince stream.since id := by
        rw [← told]
        exact List.mem_map_of_mem inside
      obtain ⟨entry, isDue, changes⟩ := List.mem_flatMap.mp inside
      have stood := (recounts.dated entry (entries entry isDue)).unshown (accounted entry isDue)
        ((fate_of_whole live.whole isDue).imp_left (Exists.imp fun _ sent => sent.1)) changes
      rw [told]
      exact (recounts.recounted.since_added added stood).on_trail before
  · -- No signal and no page names a notification that was never theirs.
    rw [sound.current_of_stranger owned, recounts.due_silent routed caughtUp owned]
    exact tracks.unknown owned

end Realtime

namespace Reconnect

variable {initial : List Row} {caller : Uuid} {ctx : Context} {state after : Reconnect}

/-- What a client has been given in each phase. -/
def Phase.Given (initial : List Row) (caller : Uuid) (hub : Realtime) : Phase → Prop
  | .away => True
  | .walking index nodes => hub.Given initial caller index nodes (Below nodes)
  | .arrived index nodes => hub.Given initial caller index nodes fun _ => False

/-- What holds of the hub and of a client of it while no fact is lost. -/
structure Follows (initial : List Row) (caller : Uuid) (state : Reconnect) : Prop where
  /-- No fact is lost on a stream. -/
  faithful : state.hub.Faithful initial
  /-- The dispatches recount the committed writes. -/
  recounts : state.hub.Recounts initial
  /-- The client has been given what its phase says. -/
  given : Phase.Given initial caller state.hub state.phase

/-- Before anything has happened. -/
theorem start_follows (table : Notifications) (caller : Uuid) :
    Follows table.rows caller (start table.rows) :=
  ⟨Realtime.start_faithful table, Realtime.start_recounts table, trivial⟩

/-- A step of the hub, which may be one of the client's stream. -/
theorem Follows.hub (follows : Follows initial caller state) {action : Realtime.Action}
    {hub : Realtime} (heard : state.hub.Heard action) (stepped : state.hub.step action = some hub) :
    Follows initial caller ⟨hub, state.phase⟩ := by
  have routed := follows.faithful.routed
  refine ⟨Realtime.faithful_step follows.faithful heard stepped,
    Realtime.recounts_step follows.recounts routed heard.1 stepped, ?_⟩
  have given := follows.given
  cases phase : state.phase with
  | away => trivial
  | walking index nodes =>
    rw [phase] at given
    exact Realtime.Given.step given routed.sound follows.recounts.single stepped
  | arrived index nodes =>
    rw [phase] at given
    exact Realtime.Given.step given routed.sound follows.recounts.single stepped

/-- Every step that loses no fact keeps the client in hand. -/
theorem follows_step {action : Action} (resolved : recipient ctx = .ok caller)
    (follows : Follows initial caller state) (heard : state.Heard action)
    (stepped : state.step ctx action = some after) : Follows initial caller after := by
  cases moves_of_step stepped with
  | hub moved => exact follows.hub heard moved
  | @opens opener away accepted =>
    obtain rfl : opener = caller := Except.ok.inj (accepted.symm.trans resolved)
    have moved : state.hub.step (.subscribe ctx) = some (state.hub.subscribe opener) := by
      rw [Realtime.step, Realtime.notifierNotificationEvents, accepted]
    have opened : state.hub.Heard (.subscribe ctx) := ⟨by simp, by simp⟩
    obtain ⟨faithful, recounts, -⟩ := follows.hub opened moved
    refine ⟨faithful, recounts, ?_⟩
    have there : (state.hub.subscribe opener).streams[state.hub.streams.length]? =
        some (state.hub.opening opener (state.hub.entry opener)) := List.getElem?_concat_length
    exact ⟨_, there, rfl, tracks_opened follows.recounts.behind⟩
  | @page first asker index nodes more hasNextPage walking accepted answered =>
    obtain rfl : asker = caller := Except.ok.inj (accepted.symm.trans resolved)
    refine ⟨follows.faithful, follows.recounts, ?_⟩
    have given := follows.given
    rw [walking] at given
    obtain ⟨stream, there, own, tracks⟩ := given
    have paged := tracks.page follows.faithful.routed.sound follows.recounts.single
      follows.recounts.recounted answered
    cases hasNextPage with
    | true => exact ⟨stream, there, own, paged.mono fun position ahead => ahead.2⟩
    | false => exact ⟨stream, there, own, paged.mono fun position ahead => by cases ahead.1⟩

/-- The client of a run without loss is in hand. -/
theorem follows_of_reaches {table : Notifications} (resolved : recipient ctx = .ok caller)
    (reached : Reaches (step ctx) Heard (start table.rows) state) :
    Follows table.rows caller state :=
  reached.invariant
    (fun _ _ _ follows heard stepped => follows_step resolved follows heard stepped)
    (start_follows table caller)

end Reconnect

/-! ## Convergence -/

/-- What a node shows of how its notification stands. -/
def NotificationNode.standing (node : NotificationNode) : Uuid × Bool :=
  (node.id, node.readAt.isSome)

/-- How a row stands. -/
def Row.standing (row : Row) : Uuid × Bool := (row.id, row.readAt.isSome)

/-- What is known of the ids is how the nodes stand. -/
theorem mem_standing_nodes {nodes : List NotificationNode}
    (distinct : (nodes.map NotificationNode.id).Nodup) (id : Uuid) (read : Bool) :
    (id, read) ∈ nodes.map NotificationNode.standing ↔ known nodes id = some read := by
  constructor
  · intro shown
    obtain ⟨node, member, same⟩ := List.mem_map.mp shown
    obtain ⟨named, shows⟩ := Prod.mk.inj same
    cases held : known nodes id with
    | none =>
      have given : id ∈ nodes.map NotificationNode.id := by
        rw [← named]
        exact List.mem_map_of_mem member
      exact absurd given (known_eq_none.mp held)
    | some other =>
      obtain ⟨found, inside, also, tells⟩ := known_eq_some held
      have one : found = node :=
        List.inj_on_of_nodup_map distinct inside member (also.trans named.symm)
      rw [← tells, one, shows]
  · intro held
    obtain ⟨node, member, named, shows⟩ := known_eq_some held
    exact List.mem_map.mpr ⟨node, member, Prod.ext named shows⟩

/-- What the table says of the ids is how a recipient's rows stand. -/
theorem mem_standing_rows {rows : List Row} (ids : (rows.map Row.id).Nodup) (recipientId id : Uuid)
    (read : Bool) :
    (id, read) ∈ (rows.filter fun row => row.recipientId == recipientId).map Row.standing ↔
      current rows recipientId id = some read := by
  rw [current, Option.map_eq_some_iff]
  constructor
  · intro stands
    obtain ⟨row, inside, same⟩ := List.mem_map.mp stands
    obtain ⟨member, own⟩ := List.mem_filter.mp inside
    obtain ⟨named, shows⟩ := Prod.mk.inj same
    exact ⟨row, (anchorRow_eq_some ids).mpr ⟨member, named, beq_iff_eq.mp own⟩, shows⟩
  · intro found
    obtain ⟨row, selected, shows⟩ := found
    obtain ⟨member, named, own⟩ := (anchorRow_eq_some ids).mp selected
    refine List.mem_map.mpr ⟨row, ?_, Prod.ext named shows⟩
    exact List.mem_filter.mpr ⟨member, beq_iff_eq.mpr own⟩

/-- The reconnect protocol converges. In any run that loses no fact, once a client that opened
its stream and then walked its list is at the end of the list, every committed signal has been
dispatched and the stream, which is still open, has been read to its end, folding the stream
over the walk gives the caller's notifications in the table, each as it stands there. -/
theorem reconnect_converges (table : Notifications) (ctx : Context) (caller : Uuid)
    (resolved : recipient ctx = .ok caller) (state : Reconnect)
    (reached : Reaches (Reconnect.step ctx) Reconnect.Heard (Reconnect.start table.rows) state)
    (index : Nat) (nodes : List NotificationNode) (stream : Stream)
    (arrived : state.phase = .arrived index nodes)
    (there : state.hub.streams[index]? = some stream) (receiving : stream.receiving = true)
    (caughtUp : state.hub.CaughtUp)
    (consumed : stream.next = (state.hub.channels stream.channel).length) :
    ((folded nodes stream.served).map NotificationNode.standing).Perm
      ((state.hub.store.rows.filter fun row => row.recipientId == caller).map Row.standing) := by
  have follows := Reconnect.follows_of_reaches resolved reached
  have given := follows.given
  rw [arrived] at given
  obtain ⟨other, also, own, tracks⟩ := given
  obtain rfl : other = stream := Option.some.inj (also.symm.trans there)
  have ids := follows.faithful.routed.sound.consistent.unique.ids
  have distinct := folded_distinct (tracks.given.distinct follows.recounts.single) other.served
  apply (List.perm_ext_iff_of_nodup ?_ ?_).mpr
  · intro standing
    obtain ⟨id, read⟩ := standing
    have same := follows.recounts.known_folded follows.faithful caughtUp
      (List.mem_of_getElem? there) receiving consumed (own ▸ tracks) id
    rw [mem_standing_nodes distinct, mem_standing_rows ids, same, own]
  · apply List.Nodup.of_map Prod.fst
    rw [List.map_map]
    exact distinct
  · apply List.Nodup.of_map Prod.fst
    rw [List.map_map]
    exact (List.filter_sublist.map Row.id).nodup ids

/-- A fan-out to two recipients is committed and dispatched. -/
def sampleAdding : List Realtime.Action :=
  (sampleFanOut ++ [Store.Action.commit 0]).map .database ++ sampleDispatch ++
    [.receive, .run none, .finish]

/-- A recipient marks their notification as read; it is dispatched, and they read their stream. -/
def sampleMarking : List Realtime.Action :=
  [Store.Action.begin 1 (.markAsRead (sampleId 2) (sampleId 10)) ⟨1000⟩, .advance 1, .advance 1,
    .visit 1 0, .finish 1, .advance 1, .commit 1].map .database ++
    [.receive, .run none, .run none, .run none, .finish, .poll 0, .poll 0]

/-- A client that is shown a new notification by its stream and by its page, and then marks it as
read. -/
def sampleReconnecting : List Reconnect.Action :=
  .opens :: sampleAdding.map .hub ++ .page 10 :: sampleMarking.map .hub

/-- A step that loses no fact, as a check. -/
def missesNothing (state : Reconnect) : Reconnect.Action → Bool
  | .hub action => losesNothing state.hub action
  | _ => true

/-- A step that passes the check fails no re-read. -/
theorem heard_of_missesNothing (state : Reconnect) (action : Reconnect.Action)
    (passed : missesNothing state action = true) : state.Heard action := by
  cases action with
  | hub action => exact heard_of_losesNothing state.hub action passed
  | _ => trivial

/-- The state `sampleReconnecting` leads to. -/
def sampleReconnected : Reconnect :=
  (play (Reconnect.step sampleReader) (Reconnect.start []) sampleReconnecting).get (by decide)

/-- The page showed the notification unread and the stream was served an `Added` and a `Read`:
the fold is the recipient's one row, read. -/
theorem reconnect_converges_sample :
    ∃ nodes stream, sampleReconnected.phase = .arrived 0 nodes ∧
      sampleReconnected.hub.streams[0]? = some stream ∧
      ((folded nodes stream.served).map NotificationNode.standing).Perm
        ((sampleReconnected.hub.store.rows.filter fun row =>
          row.recipientId == sampleId 2).map Row.standing) ∧
      (nodes.map NotificationNode.standing, stream.served.length) =
        ([(sampleId 10, false)], 2) ∧
      (folded nodes stream.served).map NotificationNode.standing = [(sampleId 10, true)] := by
  have played : play (fun state action =>
      if missesNothing state action then Reconnect.step sampleReader state action else none)
      (Reconnect.start []) sampleReconnecting = some sampleReconnected := rfl
  have run := steps_of_checked_play played heard_of_missesNothing
  have caughtUp : sampleReconnected.hub.CaughtUp := ⟨rfl, rfl⟩
  refine ⟨_, _, rfl, rfl, ?_, by decide, by decide⟩
  exact reconnect_converges .empty sampleReader (sampleId 2) rfl sampleReconnected ⟨_, run⟩ 0 _ _
    rfl rfl rfl caughtUp rfl

end SvcNotifier
