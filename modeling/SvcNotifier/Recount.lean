import SvcNotifier.Streams

/-!
# What the log tells of every row, and how far it is dispatched

From whatever table a run starts, the committed signals take each row from where it stood at
first to where it stands. A listener whose connection does not drop dispatches them in their
order, none twice and none left out. What a re-read finds of a row is where the row stood at
some time of the run.
-/

namespace SvcNotifier

open Library Program

/-- Where a row that is there stands. -/
def Status.of (readAt : Option DateTime) : Status := if readAt.isNone then .unread else .read

/-- What a client should know of a row that stands so. -/
def Status.known : Status → Option Bool
  | .absent => none
  | .unread => some false
  | .read => some true
  | .gone => none

/-- A row that is there is known as it stands. -/
theorem Status.known_of (readAt : Option DateTime) : (of readAt).known = some readAt.isSome := by
  cases readAt with
  | none => rfl
  | some readAt => rfl

/-! ## The life of a row from any status -/

/-- A removed row has no more life. -/
theorem follow_gone {kinds : List FactKind} {last : Status}
    (followed : notificationLifecycle.follow .gone kinds = some last) :
    kinds = [] ∧ last = .gone := by
  cases kinds with
  | nil => exact ⟨rfl, (Option.some.inj followed).symm⟩
  | cons kind kinds => cases kind <;> contradiction

/-- A read row may be removed. -/
theorem follow_read {kinds : List FactKind} {last : Status}
    (followed : notificationLifecycle.follow .read kinds = some last) :
    kinds = [] ∧ last = .read ∨ kinds = [.deleted] ∧ last = .gone := by
  cases kinds with
  | nil => exact Or.inl ⟨rfl, (Option.some.inj followed).symm⟩
  | cons kind kinds =>
    cases kind with
    | deleted =>
      obtain ⟨rfl, rfl⟩ := follow_gone followed
      exact Or.inr ⟨rfl, rfl⟩
    | _ => contradiction

/-- An unread row may be read, and be removed before or after. -/
theorem follow_unread {kinds : List FactKind} {last : Status}
    (followed : notificationLifecycle.follow .unread kinds = some last) :
    kinds = [] ∧ last = .unread ∨ kinds = [.read] ∧ last = .read ∨
      last = .gone ∧ (kinds = [.deleted] ∨ kinds = [.read, .deleted]) := by
  cases kinds with
  | nil => exact Or.inl ⟨rfl, (Option.some.inj followed).symm⟩
  | cons kind kinds =>
    cases kind with
    | added => contradiction
    | read =>
      rcases follow_read followed with ⟨rfl, rfl⟩ | ⟨rfl, rfl⟩
      · exact Or.inr (Or.inl ⟨rfl, rfl⟩)
      · exact Or.inr (Or.inr ⟨rfl, Or.inr rfl⟩)
    | deleted =>
      obtain ⟨rfl, rfl⟩ := follow_gone followed
      exact Or.inr (Or.inr ⟨rfl, Or.inl rfl⟩)

/-- A row that was not there may be added, and then lives on. -/
theorem follow_absent {kinds : List FactKind} {last : Status}
    (followed : notificationLifecycle.follow .absent kinds = some last) :
    kinds = [] ∧ last = .absent ∨
      ∃ rest, kinds = .added :: rest ∧ notificationLifecycle.follow .unread rest = some last := by
  cases kinds with
  | nil => exact Or.inl ⟨rfl, (Option.some.inj followed).symm⟩
  | cons kind kinds =>
    cases kind with
    | added => exact Or.inr ⟨kinds, rfl, followed⟩
    | _ => contradiction

/-- Only a row that has never been there is added. -/
theorem absent_of_added {kinds : List FactKind} {first last : Status}
    (followed : notificationLifecycle.follow first kinds = some last) (added : .added ∈ kinds) :
    first = .absent := by
  cases first with
  | absent => rfl
  | unread =>
    rcases follow_unread followed with ⟨rfl, -⟩ | ⟨rfl, -⟩ | ⟨-, rfl | rfl⟩ <;> simp at added
  | read =>
    rcases follow_read followed with ⟨rfl, -⟩ | ⟨rfl, -⟩ <;> simp at added
  | gone =>
    obtain ⟨rfl, -⟩ := follow_gone followed
    cases added

/-- Nothing has happened to a row that has never been there. -/
theorem nothing_of_absent {kinds : List FactKind} {first : Status}
    (followed : notificationLifecycle.follow first kinds = some .absent) :
    kinds = [] ∧ first = .absent := by
  cases first with
  | absent =>
    rcases follow_absent followed with ⟨rfl, -⟩ | ⟨rest, -, later⟩
    · exact ⟨rfl, rfl⟩
    · rcases follow_unread later with ⟨-, same⟩ | ⟨-, same⟩ | ⟨same, -⟩ <;> contradiction
  | unread =>
    rcases follow_unread followed with ⟨-, same⟩ | ⟨-, same⟩ | ⟨same, -⟩ <;> contradiction
  | read =>
    rcases follow_read followed with ⟨-, same⟩ | ⟨-, same⟩ <;> contradiction
  | gone =>
    obtain ⟨-, same⟩ := follow_gone followed
    contradiction

/-! ## The rows of a run -/

namespace Store

variable {store after : Store} {initial : List Row}

/-- The status of a row that is there. -/
theorem Sound.status_of_row (sound : Sound initial store) {row : Row} (member : row ∈ store.rows) :
    store.status row.id = .of row.readAt := by
  rw [status, (rowOf_eq_some sound.consistent.unique).mpr ⟨member, rfl⟩, Status.of]

/-- The status of a recipient's row that is not there. -/
theorem Sound.status_of_absent (sound : Sound initial store) (single : store.Single)
    {recipientId id : Uuid} (owned : store.Owned recipientId id)
    (absent : ∀ row ∈ store.rows, row.owned ≠ (recipientId, id)) : store.status id = .gone := by
  have none_ : rowOf store.rows id = none := by
    rw [rowOf_eq_none]
    intro inside
    obtain ⟨row, member, rfl⟩ := List.mem_map.mp inside
    have own : row.recipientId = recipientId := single.owner (sound.owned member) owned
    exact absent row member (Prod.ext own rfl)
  have used : id ∈ store.history.map Write.id := by
    obtain ⟨first, inserted, same⟩ := owned
    exact List.mem_map.mpr ⟨.insert first, inserted, congrArg Prod.snd same⟩
  rw [status, none_]
  exact if_pos used

/-- The committed signals take every row from where it stood at first to where it stands. -/
def Recounted (initial : List Row) (store : Store) : Prop :=
  ∀ id, notificationLifecycle.follow ((start initial).status id) (store.told id) =
    some (store.status id)

/-- A row stood so at some time of the run. -/
def Stood (initial : List Row) (store : Store) (id : Uuid) (status : Status) : Prop :=
  status ∈ notificationLifecycle.trail ((start initial).status id) (store.told id)

/-- Nothing has happened to the rows a database starts with. -/
theorem start_recounted (rows : List Row) : Recounted rows (start rows) := fun _ => rfl

/-- What a step tells of a row takes it where the step takes it. -/
theorem told_step {action : Action} (sound : Sound initial store)
    (stepped : store.step action = some after) (id : Uuid) :
    ∃ kinds, after.told id = store.told id ++ kinds ∧
      notificationLifecycle.follow (store.status id) kinds = some (after.status id) := by
  obtain ⟨writes, queued, applies, -⟩ := applies_of_step sound stepped
  have unique := sound.consistent.unique
  by_cases named : id ∈ writes.map Write.id
  · obtain ⟨write, member, rfl⟩ := List.mem_map.mp named
    refine ⟨[write.kind], ?_, ?_⟩
    · rw [applies.told_append, applies.about_write member]
    · rw [Lifecycle.follow_cons, status_of_write unique applies member]
      rfl
  · refine ⟨[], ?_, ?_⟩
    · rw [applies.told_append, about_eq_nil]
      rwa [List.map_map]
    · rw [status_unnamed unique applies named]
      rfl

/-- Every step keeps the rows recounted. -/
theorem recounted_step {action : Action} (sound : Sound initial store)
    (recounted : Recounted initial store) (stepped : store.step action = some after) :
    Recounted initial after := by
  intro id
  obtain ⟨kinds, told, moved⟩ := told_step sound stepped id
  rw [told, Lifecycle.follow_append, recounted id]
  exact moved

/-- Where a row stands, it has stood. -/
theorem Recounted.stands (recounted : Recounted initial store) (id : Uuid) :
    Stood initial store id (store.status id) :=
  notificationLifecycle.mem_trail_of_follow (recounted id)

/-- Where a row has stood stays so. -/
theorem Stood.step {action : Action} {id : Uuid} {status : Status}
    (stood : Stood initial store id status) (sound : Sound initial store)
    (stepped : store.step action = some after) : Stood initial after id status := by
  obtain ⟨kinds, told, -⟩ := told_step sound stepped id
  rw [Stood, told]
  exact (notificationLifecycle.trail_grows _ _ _).subset stood

end Store

/-! ## The listener -/

/-- An `Added` shows its notification as it stood at some time. -/
def ClientEvent.Dated (initial : List Row) (store : Store) : ClientEvent → Prop
  | .added notification => store.Stood initial notification.id (.of notification.readAt)
  | .read _ _ => True
  | .deleted _ => True

/-- What became of an `Added` is of the time of its re-read. -/
def Dispatched.Dated (initial : List Row) (store : Store) (entry : Dispatched) : Prop :=
  match entry.fate with
  | .sent event => event.Dated initial store
  | .gone => ∀ recipientId id, entry.signal = .added recipientId id →
      store.Stood initial id .gone
  | _ => True

/-- The event a dispatch has. -/
def Stand.event : Stand → Option ClientEvent
  | .ready event => some event
  | .holding _ event => some event
  | _ => none

/-- The signal of a dispatch whose fate is still to be recorded. -/
def Stand.pending (signal : NotificationSignal) : Stand → List NotificationSignal
  | .settled => []
  | _ => [signal]

/-- A dispatch that is not settled has its signal to record. -/
theorem Stand.pending_open {stand : Stand} (signal : NotificationSignal)
    (open_ : stand ≠ .settled) : stand.pending signal = [signal] := by
  cases stand with
  | settled => contradiction
  | _ => rfl

namespace Realtime

variable {hub after : Realtime} {initial : List Row}

/-- The listener has taken the log up to its position: all of it is dispatched, but for the
signal under way. -/
structure Recounts (initial : List Row) (hub : Realtime) : Prop where
  /-- Every id is inserted once. -/
  single : hub.store.Single
  /-- The log recounts the committed writes. -/
  recounted : hub.store.Recounted initial
  /-- The listener is not past the end of the log. -/
  within : hub.position ≤ hub.store.log.length
  /-- Between two dispatches all that was taken is dispatched. -/
  idle : hub.dispatching = none →
    hub.dispatched.map Dispatched.signal = hub.store.log.take hub.position
  /-- In a dispatch, its signal alone is not. -/
  underway : hub.Stands fun signal stand =>
    hub.dispatched.map Dispatched.signal ++ stand.pending signal =
        hub.store.log.take hub.position ∧
      ∀ event, stand.event = some event → event.Dated initial hub.store
  /-- Every event that was sent is dated. -/
  dated : ∀ entry ∈ hub.dispatched, entry.Dated initial hub.store

/-- A listener just started has nothing to catch up with. -/
theorem start_recounts (table : Notifications) : (start table.rows).Recounts table.rows where
  single := Store.start_single table
  recounted := Store.start_recounted table.rows
  within := Nat.le_refl _
  idle _ := rfl
  underway := by simp [Stands, start]
  dated := by simp [start]

/-- A hub with the same log, of which nothing more has been taken or dispatched. -/
theorem Recounts.aside (recounts : hub.Recounts initial) (store : after.store = hub.store)
    (position : after.position = hub.position) (dispatched : after.dispatched = hub.dispatched)
    (dispatching : after.dispatching = hub.dispatching)
    (registry : ∀ recipientId channel, hub.registry recipientId = some channel →
      after.registry recipientId = some channel) : after.Recounts initial := by
  constructor
  · rw [store]
    exact recounts.single
  · rw [store]
    exact recounts.recounted
  · rw [store, position]
    exact recounts.within
  · rw [store, position, dispatched, dispatching]
    exact recounts.idle
  · refine recounts.underway.moves dispatching ?_ ?_ registry ?_
    · rw [store]
      exact List.Subset.refl _
    · rw [store]
      exact List.Subset.refl _
    · rw [store, position, dispatched]
      exact fun _ _ held => held
  · rw [store, dispatched]
    exact recounts.dated

/-- What a call decides is recorded in its turn, and what it finds is of its time. -/
theorem Recounts.decided (recounts : hub.Recounts initial) (routed : hub.Routed initial)
    {failure : Option SqlxError} {signal : NotificationSignal} {stand later : Stand}
    (committed : signal ∈ hub.store.log)
    (held : hub.dispatched.map Dispatched.signal ++ stand.pending signal =
        hub.store.log.take hub.position ∧
      ∀ event, stand.event = some event → event.Dated initial hub.store)
    (decides : hub.Decides failure signal stand later after) :
    after.dispatched.map Dispatched.signal ++ later.pending signal =
        hub.store.log.take hub.position ∧
      (∀ event, later.event = some event → event.Dated initial hub.store) ∧
      ∀ entry ∈ after.dispatched, entry.Dated initial hub.store := by
  have sound := routed.sound
  obtain ⟨order, dates⟩ := held
  rw [Stand.pending_open signal decides.open_] at order
  -- The queue does not depend on what was decided.
  have queue : after.dispatched.map Dispatched.signal ++ later.pending signal =
      hub.store.log.take hub.position := by
    rcases decides.dispatched with ⟨fate, rfl, recorded⟩ | ⟨open_, same⟩
    · rw [recorded, List.map_append, Stand.pending, List.append_nil]
      exact order
    · rw [same, Stand.pending_open signal open_]
      exact order
  have recorded : ∀ fate, Dispatched.Dated initial hub.store ⟨signal, fate, hub.store.rows⟩ →
      ∀ entry ∈ hub.dispatched ++ [⟨signal, fate, hub.store.rows⟩],
        entry.Dated initial hub.store := by
    intro fate dated entry member
    rcases List.mem_append.mp member with old | new
    · exact recounts.dated entry old
    · rw [List.mem_singleton] at new
      rw [new]
      exact dated
  refine ⟨queue, ?_⟩
  cases decides with
  | active =>
    refine ⟨?_, recounts.dated⟩
    intro event told
    unfold NotificationSignal.onward at told
    cases signal with
    | added recipientId id => contradiction
    | read recipientId ids readAt =>
      obtain rfl := Option.some.inj told
      trivial
    | deleted recipientId ids =>
      obtain rfl := Option.some.inj told
      trivial
  | inactive unwatched => exact ⟨by simp [Stand.event], recorded .inactive trivial⟩
  | @found id row notification isAdded member owned content =>
    refine ⟨?_, recounts.dated⟩
    intro event told
    obtain rfl := Option.some.inj told
    obtain ⟨sameId, readAt, -⟩ := fromRow_same content
    show hub.store.Stood initial notification.id (.of notification.readAt)
    rw [sameId, readAt, ← sound.status_of_row member]
    exact recounts.recounted.stands row.id
  | @gone id isAdded absent =>
    refine ⟨by simp [Stand.event], recorded .gone ?_⟩
    intro recipientId other same
    rw [isAdded] at same
    obtain ⟨own, rfl⟩ := NotificationSignal.added.inj same
    have stated : Fact.mk .added signal.recipientId id ∈ signal.facts := by
      rw [isAdded]
      exact List.mem_singleton_self _
    have owned := routed.rooted.announced sound committed stated
    rw [← sound.status_of_absent recounts.single owned absent]
    exact recounts.recounted.stands id
  | @failed id error next isAdded at_ failing =>
    exact ⟨by simp [Stand.event], recorded (.failed error) trivial⟩
  | @registered channel event found => exact ⟨dates, recounts.dated⟩
  | unregistered unwatched => exact ⟨by simp [Stand.event], recorded .unregistered trivial⟩
  | @sent channel event found due =>
    obtain ⟨-, -, -, dispatched, store, -⟩ := push_keeps hub channel event
    refine ⟨by simp [Stand.event], ?_⟩
    show ∀ entry ∈ (hub.push channel event).dispatched ++
      [⟨signal, .sent event, (hub.push channel event).store.rows⟩], _
    rw [dispatched, store]
    exact recorded (.sent event) (dates event rfl)

/-- Every step of a listener whose connection does not drop keeps it up with the log. -/
theorem recounts_step {action : Action} (recounts : hub.Recounts initial)
    (routed : hub.Routed initial) (listens : action ≠ .relisten)
    (stepped : hub.step action = some after) : after.Recounts initial := by
  have sound := routed.sound
  cases moves_of_step stepped with
  | @database action store moved =>
    obtain ⟨writes, queued, applies, -⟩ := Store.applies_of_step sound moved
    have same : store.log.take hub.position = hub.store.log.take hub.position := by
      rw [applies.log, List.take_append_of_le_length recounts.within]
    have later : ∀ event : ClientEvent, event.Dated initial hub.store →
        event.Dated initial store := by
      intro event dated
      cases event with
      | added notification => exact Store.Stood.step dated sound moved
      | _ => trivial
    refine ⟨Store.single_step sound recounts.single moved,
      Store.recounted_step sound recounts.recounted moved, ?_, ?_, ?_, ?_⟩
    · show hub.position ≤ store.log.length
      have within := recounts.within
      rw [applies.log, List.length_append]
      omega
    · intro idle
      exact (recounts.idle idle).trans same.symm
    · have log := (Store.log_grows moved).subset
      refine recounts.underway.moves rfl log (Store.history_grows moved).subset
        (fun _ _ registered => registered) ?_
      rintro signal stand ⟨order, dates⟩
      exact ⟨order.trans same.symm, fun event has => later event (dates event has)⟩
    · intro entry member
      have dated := recounts.dated entry member
      obtain ⟨signal, fate, rows⟩ := entry
      cases fate with
      | sent event => exact later event dated
      | gone => exact fun recipientId id added => (dated recipientId id added).step sound moved
      | _ => trivial
  | relisten idle => contradiction
  | @receive signal idle notified =>
    have bound : hub.position < hub.store.log.length := (List.getElem?_eq_some_iff.mp notified).1
    refine ⟨recounts.single, recounts.recounted, bound, ?_, ?_, recounts.dated⟩
    · intro none_
      contradiction
    · have fits : Realtime.Fits { hub with position := hub.position + 1 } signal .undecided :=
        trivial
      refine stands_resume (List.mem_of_getElem? notified) (dispatch_ensures signal) fits ⟨?_, ?_⟩
      · show hub.dispatched.map Dispatched.signal ++ [signal] =
          hub.store.log.take (hub.position + 1)
        rw [recounts.idle idle, List.take_add_one, notified]
        rfl
      · intro event has
        contradiction
  | @run failure signal request next at_ =>
    obtain ⟨stand, later, held, decides, goesOn⟩ :=
      recounts.underway.performed sound routed.rooted routed.wired failure at_
    have committed := (recounts.underway _ _ at_).1
    obtain ⟨order, dates, dated⟩ := recounts.decided routed committed held decides
    have store := decides.store
    have position := decides.position
    refine ⟨?_, ?_, ?_, ?_, ?_, ?_⟩
    · show (hub.perform signal request (hub.answer failure request)).store.Single
      rw [store]
      exact recounts.single
    · show (hub.perform signal request (hub.answer failure request)).store.Recounted initial
      rw [store]
      exact recounts.recounted
    · show (hub.perform signal request (hub.answer failure request)).position ≤
        (hub.perform signal request (hub.answer failure request)).store.log.length
      rw [store, position]
      exact recounts.within
    · intro none_
      contradiction
    · apply goesOn
      show _ = (hub.perform signal request (hub.answer failure request)).store.log.take
          (hub.perform signal request (hub.answer failure request)).position ∧
        ∀ event : ClientEvent, _ → event.Dated initial
          (hub.perform signal request (hub.answer failure request)).store
      rw [store, position]
      exact ⟨order, dates⟩
    · show ∀ entry ∈ (hub.perform signal request (hub.answer failure request)).dispatched,
        entry.Dated initial (hub.perform signal request (hub.answer failure request)).store
      rw [store]
      exact dated
  | @finish signal at_ =>
    obtain ⟨committed, stand, ensures, fits, order, dates⟩ := recounts.underway _ _ at_
    obtain rfl : stand = .settled := ensures
    refine ⟨recounts.single, recounts.recounted, recounts.within, ?_, ?_, recounts.dated⟩
    · intro _
      rw [Stand.pending, List.append_nil] at order
      exact order
    · intro signal program found
      cases found
  | @opens ctx caller accepted =>
    refine recounts.aside rfl rfl rfl rfl ?_
    exact fun _ _ registered => subscribe_registry caller registered
  | refuses refused => exact recounts
  | poll there receiving given =>
    exact recounts.aside rfl rfl rfl rfl fun _ _ registered => registered
  | close there receiving => exact recounts.aside rfl rfl rfl rfl fun _ _ registered => registered

end Realtime

end SvcNotifier
