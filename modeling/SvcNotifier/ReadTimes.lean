import SvcNotifier.Transitions
import SvcNotifier.Routing

/-!
# The read time that is announced and the one that is stored

`mark_as_read` announces the `read_at` that its UPDATE returns. `mark_all_as_read` announces the
reading of its own clock, in nanoseconds, of which the column keeps the microseconds. An event
carries what its signal carries, and the table, and every listing of it, what the column keeps.
-/

namespace SvcNotifier

open Library Program

/-- What a column keeps it keeps when it is stored again. -/
theorem DateTime.timestamptz_timestamptz (instant : DateTime) :
    instant.timestamptz.timestamptz = instant.timestamptz := by
  have kept : instant.nanos / 1000 * 1000 / 1000 * 1000 = instant.nanos / 1000 * 1000 := by omega
  exact congrArg DateTime.mk kept

/-- The instant that the `Read` signals of an operation carry; `now` is the start of its
transaction. -/
def Operation.announcedReadAt (now : DateTime) : Operation → Option DateTime
  | .markAsRead .. => some now.timestamptz
  | .markAllAsRead utcNow _ => some utcNow
  | _ => none

/-- The `Read` signals that are queued carry the instant. -/
def Carry (queued : List NotificationSignal) (instant : DateTime) : Prop :=
  ∀ recipientId ids readAt, .read recipientId ids readAt ∈ queued → readAt = instant

/-- The chunks of one read carry its instant. -/
theorem carry_readSignals (recipientId : Uuid) (ids : List Uuid) (readAt : DateTime) :
    Carry (readSignals recipientId ids readAt) readAt := by
  intro _ _ _ member
  obtain ⟨chunk, -, same⟩ := List.mem_map.mp member
  injection same with _ _ same
  exact same.symm

variable {now : DateTime} {progress : Progress}

/-- The signals of `signal_read` on a clean transaction. -/
theorem signalRead_carries {recipientId : Uuid} {ids : List Uuid} {readAt : DateTime}
    (distinct : (readSignals recipientId ids readAt).Nodup) (quiet : progress.queued = []) :
    Ensures (txContract now) (fun _ after => Carry after.queued readAt)
      (signalRead recipientId ids readAt) progress := by
  apply (signalAll_ensures _ distinct quiet).mono
  rintro _ after ⟨-, -, queued⟩
  rw [queued]
  exact carry_readSignals recipientId ids readAt

/-- `mark_as_read` announces what its UPDATE returns. -/
theorem markAsRead_carries (recipientId id : Uuid) (clean : progress.Clean) :
    Ensures (txContract now) (fun _ after => Carry after.queued now.timestamptz)
      (markAsRead recipientId id) progress := by
  refine ensures_write rfl clean.1 fun snapshot writes makes => ?_
  have facts := makes.markRead_fact
  have silent : Carry progress.queued now.timestamptz := by
    intro _ _ _ member
    rw [clean.2] at member
    contradiction
  simp only [Statement.reply, Program.bind]
  cases found : anchorRow snapshot recipientId id with
  | none => exact silent
  | some before =>
    obtain ⟨-, named, -⟩ := anchorRow_some found
    rcases writes_of_one_id makes.distinct (fun write member => (facts write member).1) with
      rfl | ⟨write, rfl⟩
    · cases before.readAt <;> simpa using silent
    · obtain ⟨sameId, setAt, -⟩ := facts write List.mem_cons_self
      simp only [Option.map_some, List.find?_cons, sameId, named, beq_self_eq_true,
        Option.bind_some, setAt, Option.some_or, Option.isSome_some]
      apply Ensures.bind
      refine Ensures.mono (signalRead_carries ?_ clean.2) fun _ _ carried => carried
      exact List.nodup_singleton _

/-- `mark_all_as_read` announces the reading of its own clock. -/
theorem markAllAsRead_carries (utcNow : DateTime) (recipientId : Uuid) (clean : progress.Clean) :
    Ensures (txContract now) (fun _ after => Carry after.queued utcNow)
      (markAllAsRead utcNow recipientId) progress := by
  refine ensures_write rfl clean.1 fun snapshot writes makes => ?_
  simp only [Statement.reply, Program.bind]
  cases writes with
  | nil =>
    intro _ _ _ member
    have none_ : _ ∈ progress.queued := member
    rw [clean.2] at none_
    contradiction
  | cons first rest =>
    apply Ensures.bind
    refine Ensures.mono (signalRead_carries ?_ clean.2) fun _ _ carried => carried
    exact (chunks_nodup (by decide) makes.distinct).map fun _ _ same => by injection same

/-- A `Read` signal that announces writes names rows they set read. -/
theorem Announces.read {writes : List Write} {queued : List NotificationSignal}
    (announces : Announces writes queued) {recipientId : Uuid} {ids : List Uuid}
    {readAt : DateTime} (queued_ : .read recipientId ids readAt ∈ queued) {id : Uuid}
    (named : id ∈ ids) : ∃ row stored, .setRead row stored ∈ writes ∧ row.id = id := by
  have stated : (⟨.read, recipientId, id⟩ : Fact) ∈ writes.map Write.fact := by
    rw [← announces.facts]
    exact List.mem_flatMap.mpr ⟨_, queued_, List.mem_map_of_mem named⟩
  obtain ⟨write, member, same⟩ := List.mem_map.mp stated
  cases write with
  | setRead row stored => exact ⟨row, stored, member, congrArg Fact.id same⟩
  | insert row => cases congrArg Fact.kind same
  | delete row => cases congrArg Fact.kind same

/-- A row that is set read is named by a `Read` signal that announces it. -/
theorem Announces.announces_read {writes : List Write} {queued : List NotificationSignal}
    (announces : Announces writes queued) {row : Row} {stored : DateTime}
    (wrote : .setRead row stored ∈ writes) :
    ∃ recipientId ids readAt, .read recipientId ids readAt ∈ queued ∧ row.id ∈ ids := by
  have stated : (Write.setRead row stored).fact ∈ queued.flatMap NotificationSignal.facts := by
    rw [announces.facts]
    exact List.mem_map_of_mem wrote
  obtain ⟨signal, member, states⟩ := List.mem_flatMap.mp stated
  cases signal with
  | read recipientId ids readAt =>
    obtain ⟨id, named, same⟩ := List.mem_map.mp states
    have isId : id = row.id := congrArg Fact.id same
    exact ⟨recipientId, ids, readAt, member, isId ▸ named⟩
  | added recipientId id =>
    cases congrArg Fact.kind (List.mem_singleton.mp states)
  | deleted recipientId ids =>
    obtain ⟨id, -, same⟩ := List.mem_map.mp states
    cases congrArg Fact.kind same

/-- Every operation that commits announces its reads with one instant. -/
def Stamps (now : DateTime) (operation : Operation) (ending : Ending) (after : Progress) : Prop :=
  ∀ answer, ending = .commit answer →
    ∀ recipientId ids readAt, .read recipientId ids readAt ∈ after.queued →
      operation.announcedReadAt now = some readAt

/-- What carries an operation's instant is stamped with it. -/
theorem stamps_of_carry {operation : Operation} {ending : Ending} {instant : DateTime}
    (announced : operation.announcedReadAt now = some instant)
    (carried : Carry progress.queued instant) : Stamps now operation ending progress := by
  intro _ _ recipientId ids readAt member
  rw [announced, carried recipientId ids readAt member]

/-- What is announced without any read carries no instant. -/
theorem stamps_of_unread {operation : Operation} {ending : Ending}
    (announces : Announces progress.writes progress.queued)
    (sized : ∀ signal ∈ progress.queued, signal.Sized)
    (unread : ∀ row stored, .setRead row stored ∉ progress.writes) :
    Stamps now operation ending progress := by
  intro _ _ recipientId ids readAt member
  cases named : ids with
  | nil =>
    have some_ := (sized _ member).1
    rw [named] at some_
    contradiction
  | cons id rest =>
    have first : id ∈ ids := by
      rw [named]
      exact List.mem_cons_self
    obtain ⟨row, stored, wrote, -⟩ := announces.read member first
    exact absurd wrote (unread row stored)

/-- An operation that does not mark sets no `read_at`. -/
theorem stamps_of_settled {operation : Operation} {ending : Ending}
    (marks : ∀ statement ∈ operation.writing, ∀ row stored,
      ¬ statement.Permits now (.setRead row stored))
    (settled : Settled now operation ending progress) : Stamps now operation ending progress := by
  cases ending with
  | rollback error =>
    intro _ ended
    contradiction
  | commit answer =>
    have announced := settled.1
    apply stamps_of_unread announced.announces announced.announces.sized
    intro row stored wrote
    obtain ⟨statement, isStatement, permitted⟩ := announced.made _ wrote
    exact marks statement isStatement row stored permitted

/-- Every operation ensures it. -/
theorem stamps_ensures (now : DateTime) (operation : Operation) :
    Ensures (txContract now) (Stamps now operation) operation.body Progress.start := by
  have clean : ∀ caller : Uuid,
      Progress.Clean { Progress.start with executed := [.setConfig caller] } :=
    fun _ => ⟨rfl, rfl⟩
  cases operation with
  | markAsRead caller id =>
    refine scoped_ensures caller _ (Ensures.bind
      ((markAsRead_carries caller id (clean caller)).mono ?_))
    intro outcome after carried
    cases outcome with
    | none => exact stamps_of_carry rfl carried
    | some outcome => exact stamps_of_carry rfl carried
  | markAllAsRead utcNow caller =>
    refine scoped_ensures caller _ (Ensures.bind
      ((markAllAsRead_carries utcNow caller (clean caller)).mono ?_))
    intro _ after carried
    exact stamps_of_carry rfl carried
  | fanOut nowV7 command =>
    refine (operation_ensures now _).mono fun ending after => stamps_of_settled ?_
    rintro statement isStatement row stored permitted
    obtain rfl : Operation.insertion nowV7 command = statement := Option.some.inj isStatement
    obtain ⟨proposed, -, same⟩ := permitted
    contradiction
  | deleteNotification caller id =>
    refine (operation_ensures now _).mono fun ending after => stamps_of_settled ?_
    rintro statement isStatement row stored permitted
    obtain rfl := Option.some.inj isStatement
    obtain ⟨selected, -, same⟩ := permitted
    contradiction
  | deleteNotifications caller ids =>
    refine (operation_ensures now _).mono fun ending after => stamps_of_settled ?_
    rintro statement isStatement row stored permitted
    obtain rfl := Option.some.inj isStatement
    obtain ⟨selected, -, same⟩ := permitted
    contradiction
  | notifications caller first after =>
    refine (operation_ensures now _).mono fun ending after => stamps_of_settled ?_
    rintro statement isStatement
    contradiction
  | unreadCount caller =>
    refine (operation_ensures now _).mono fun ending after => stamps_of_settled ?_
    rintro statement isStatement
    contradiction

namespace Store

variable {store after later : Store} {initial : List Row} {sid : Nat} {session : Session}
  {answer : Except EdgeError Answer}

/-- What a session that commits has stored of the read it announces: the instant its signals
carry, in the resolution of the column. -/
theorem Sound.stored (sound : Sound initial store) (stamped : AllVerified Stamps store)
    (found : store.sessions sid = some session)
    (at_ : session.stage = .ready (.done (.commit answer))) {recipientId : Uuid} {ids : List Uuid}
    {readAt : DateTime} (queued : .read recipientId ids readAt ∈ session.queued) {id : Uuid}
    (named : id ∈ ids) :
    session.operation.announcedReadAt session.now = some readAt ∧
      ∃ row, .setRead row readAt.timestamptz ∈ store.heldBy sid ∧ row.id = id := by
  have settled := (sound.verified.at_commit found at_).1
  have stamp := stamped.at_commit found at_ answer rfl recipientId ids readAt queued
  refine ⟨stamp, ?_⟩
  obtain ⟨row, stored, wrote, same⟩ := settled.announces.read queued named
  refine ⟨row, ?_, same⟩
  obtain ⟨statement, isStatement, permitted⟩ := settled.made _ wrote
  cases isMark : session.operation with
  | markAsRead caller marked =>
    rw [isMark] at isStatement stamp
    obtain rfl := Option.some.inj isStatement
    obtain ⟨selected, -, isWrite⟩ := permitted
    have isRead : Write.setRead row stored = .setRead selected session.now.timestamptz := isWrite
    injection isRead with _ isStored
    rw [← Option.some.inj stamp, DateTime.timestamptz_timestamptz, ← isStored]
    exact wrote
  | markAllAsRead utcNow caller =>
    rw [isMark] at isStatement stamp
    obtain rfl := Option.some.inj isStatement
    obtain ⟨selected, -, isWrite⟩ := permitted
    have isRead : Write.setRead row stored = .setRead selected utcNow.timestamptz := isWrite
    injection isRead with _ isStored
    rw [← Option.some.inj stamp, ← isStored]
    exact wrote
  | _ =>
    rw [isMark] at stamp
    contradiction

/-- What a transaction stores of a read stays what it is. -/
theorem Sound.kept_read (sound : Sound initial store)
    (stepped : store.step (.commit sid) = some after)
    {row : Row} {stored : DateTime} (wrote : .setRead row stored ∈ store.heldBy sid)
    (run : Reaches step anyStep after later) {current : Row} (there : current ∈ later.rows)
    (same : current.id = row.id) : current.readAt = some stored := by
  have unique := sound.consistent.unique
  have lawful := sound.consistent.lawful sid
  have left : { row with readAt := some stored } ∈ after.rows := by
    cases moves_of_step stepped with
    | commit found at_ =>
      exact (mem_applyWrites unique lawful _).mpr (Or.inl ⟨_, wrote, rfl⟩)
  have follows := (sound_step sound stepped).follows run
  exact (follows.evolves _ left current there same).2 (Option.some_ne_none stored)

end Store

/-- Of lists that together hold one item of a kind, only one holds it. -/
theorem eq_of_countP_flatMap {α β : Type} {items : List α} {parts : α → List β} {kind : β → Bool}
    (once : (items.flatMap parts).countP kind ≤ 1) {left right : α} (isLeft : left ∈ items)
    (isRight : right ∈ items) (inLeft : ∃ part ∈ parts left, kind part = true)
    (inRight : ∃ part ∈ parts right, kind part = true) : left = right := by
  induction items with
  | nil => contradiction
  | cons item items ih =>
    rw [List.flatMap_cons, List.countP_append] at once
    have some_ : ∀ other ∈ items, (∃ part ∈ parts other, kind part = true) →
        0 < (items.flatMap parts).countP kind := by
      rintro other member ⟨part, inside, is⟩
      exact List.countP_pos_iff.mpr ⟨part, List.mem_flatMap.mpr ⟨other, member, inside⟩, is⟩
    have first : ∀ other, other = item → (∃ part ∈ parts other, kind part = true) →
        0 < (parts item).countP kind := by
      rintro other rfl ⟨part, inside, is⟩
      exact List.countP_pos_iff.mpr ⟨part, inside, is⟩
    rcases List.mem_cons.mp isLeft with leftFirst | leftLater
    · rcases List.mem_cons.mp isRight with rightFirst | rightLater
      · rw [leftFirst, rightFirst]
      · have one := first left leftFirst inLeft
        have two := some_ right rightLater inRight
        omega
    · rcases List.mem_cons.mp isRight with rightFirst | rightLater
      · have one := first right rightFirst inRight
        have two := some_ left leftLater inLeft
        omega
      · exact ih (by omega) leftLater rightLater

/-- Two `Read` signals that name one notification are one signal. -/
theorem Store.read_once {store : Store} {id : Uuid} (once : store.reports id ≤ 1)
    {recipientId otherId : Uuid} {ids others : List Uuid} {readAt otherAt : DateTime}
    (first : .read recipientId ids readAt ∈ store.log)
    (second : .read otherId others otherAt ∈ store.log)
    (named : id ∈ ids) (also : id ∈ others) : readAt = otherAt := by
  have states : ∀ (recipientId : Uuid) (ids : List Uuid) (readAt : DateTime), id ∈ ids →
      ∃ fact ∈ (NotificationSignal.read recipientId ids readAt).facts,
        (fact.kind == .read && fact.id == id) = true := by
    intro recipientId ids readAt named
    refine ⟨⟨.read, recipientId, id⟩, List.mem_map_of_mem named, ?_⟩
    rw [beq_self_eq_true, beq_self_eq_true]
    rfl
  have same := eq_of_countP_flatMap once first second (states _ _ _ named) (states _ _ _ also)
  injection same

namespace Realtime

variable {hub after : Realtime} {initial : List Row}

/-- Every event that has been sent is the one that a committed signal announces. -/
def Spoken (hub : Realtime) : Prop :=
  ∀ channel, ∀ event ∈ hub.channels channel, ∃ signal ∈ hub.store.log, signal.Tells event

/-- A call of the dispatch of a committed signal sends nothing but its event. -/
theorem Decides.spoken {failure : Option SqlxError} {signal : NotificationSignal}
    {stand later : Stand} (decides : hub.Decides failure signal stand later after)
    (committed : signal ∈ hub.store.log) (spoken : hub.Spoken) : after.Spoken := by
  cases decides with
  | @sent channel event found due =>
    have store : (hub.push channel event).store = hub.store :=
      (push_keeps hub channel event).2.2.2.2.1
    obtain ⟨others, own⟩ := push_channels hub channel event
    intro other told sent
    show ∃ signal ∈ (hub.push channel event).store.log, signal.Tells told
    rw [store]
    have sent : told ∈ (hub.push channel event).channels other := sent
    by_cases here : other = channel
    · subst here
      rw [own, List.mem_append] at sent
      rcases sent with old | new
      · exact spoken other told old
      · split at new
        · rw [List.mem_singleton.mp new]
          exact ⟨signal, committed, due.1⟩
        · contradiction
    · rw [others other here] at sent
      exact spoken other told sent
  | _ => exact spoken

/-- Every step keeps what was sent to the committed signals. -/
theorem spoken_step {action : Action} (routed : hub.Routed initial) (spoken : hub.Spoken)
    (stepped : hub.step action = some after) : after.Spoken := by
  cases moves_of_step stepped with
  | @database action store moved =>
    obtain ⟨writes, queued, applies, -⟩ := Store.applies_of_step routed.sound moved
    intro channel event sent
    obtain ⟨signal, committed, tells⟩ := spoken channel event sent
    refine ⟨signal, ?_, tells⟩
    rw [show ({ hub with store := store } : Realtime).store.log = store.log from rfl, applies.log]
    exact List.mem_append_left _ committed
  | @run failure signal request next at_ =>
    obtain ⟨committed, -⟩ := routed.dispatching signal _ at_
    obtain ⟨stand, later, -, decides, -⟩ :=
      routed.dispatching.performed routed.sound routed.rooted routed.wired failure at_
    exact decides.spoken committed spoken
  | relisten idle => exact spoken
  | receive idle notified => exact spoken
  | finish at_ => exact spoken
  | opens accepted => exact spoken
  | refuses refused => exact spoken
  | poll there receiving given => exact spoken
  | close there receiving => exact spoken

/-- What a stream has served of a read is what a committed signal announces. -/
theorem Spoken.served (spoken : hub.Spoken) (routed : hub.Routed initial) {stream : Stream}
    (member : stream ∈ hub.streams) {ids : List Uuid} {readAt : DateTime}
    (served : .ok (.notificationsRead ids readAt) ∈ stream.items) :
    ∃ recipientId, .read recipientId ids readAt ∈ hub.store.log := by
  obtain ⟨verdict, items, tail⟩ := (routed.reads stream member).items
  rw [items, List.mem_append] at served
  rcases served with sent | last
  · obtain ⟨event, inside, same⟩ := List.mem_map.mp sent
    have there := List.mem_of_mem_take (List.mem_of_mem_drop inside)
    obtain ⟨signal, committed, tells⟩ := spoken stream.channel event there
    cases event with
    | read told toldAt =>
      injection same with same
      injection same with sameIds sameAt
      cases signal with
      | read recipientId named announced =>
        obtain ⟨isTold, isAt⟩ := tells
        rw [← sameIds, ← sameAt, isTold, isAt]
        exact ⟨recipientId, committed⟩
      | added recipientId id => contradiction
      | deleted recipientId named => contradiction
    | added notification => cases same
    | deleted told => cases same
  · rcases tail with none_ | ⟨-, error, isError⟩
    · rw [none_] at last
      contradiction
    · rw [isError, List.mem_singleton] at last
      contradiction

/-- What holds in every state of a run of a hub. -/
structure Timed (initial : List Row) (hub : Realtime) : Prop where
  /-- The dispatches and the streams are in order. -/
  routed : hub.Routed initial
  /-- The table is witnessed by the history of its writes. -/
  witnessed : hub.store.Witnessed
  /-- Every session signals the `read_at` that it has written. -/
  stamped : Store.AllVerified Stamps hub.store
  /-- Every event that was sent tells a committed signal. -/
  spoken : hub.Spoken

/-- A hub just started. -/
theorem start_timed (table : Notifications) : (start table.rows).Timed table.rows where
  routed := start_routed table
  witnessed := Store.start_witnessed table.rows
  stamped := by
    intro sid session found
    contradiction
  spoken := by
    intro channel event sent
    contradiction

/-- Every step keeps the hub timed. -/
theorem timed_step {action : Action} (timed : hub.Timed initial)
    (stepped : hub.step action = some after) : after.Timed initial where
  routed := routed_step timed.routed stepped
  witnessed := by
    rcases store_step stepped with same | ⟨moved, step⟩
    · exact same ▸ timed.witnessed
    · exact Store.witnessed_step timed.routed.sound timed.witnessed step
  stamped := by
    rcases store_step stepped with same | ⟨moved, step⟩
    · exact same ▸ timed.stamped
    · exact Store.verified_step stamps_ensures timed.routed.sound.consistent timed.stamped step
  spoken := spoken_step timed.routed timed.spoken stepped

end Realtime

/-- The read time of a notification, wherever it shows: in its row, in what is listed of the row,
and in the events that name it. -/
structure ReadAgrees (hub : Realtime) (id : Uuid) (readAt : DateTime) : Prop where
  /-- In the row. -/
  stored : ∀ row ∈ hub.store.rows, row.id = id → row.readAt = some readAt
  /-- In what is listed of it. -/
  listed : ∀ row ∈ hub.store.rows, row.id = id → ∀ notification,
    Notification.fromRow row = .ok notification →
      (NotificationNode.from notification).readAt = some readAt
  /-- In the events that name it. -/
  served : ∀ stream ∈ hub.streams, ∀ ids toldAt,
    .ok (.notificationsRead ids toldAt) ∈ stream.items → id ∈ ids → toldAt = readAt

/-- The announced read time is the stored one, for a commit of any transaction and in every state
after it, exactly when the commit is not of a `markAllAsRead` that has marked something and read
its clock between two microseconds. -/
theorem announced_read_time_iff (table : Notifications) (hub after : Realtime)
    (reached : Reaches Realtime.step anyStep (Realtime.start table.rows) hub) (sid : Nat)
    (session : Session) (found : hub.store.sessions sid = some session)
    (committed : hub.step (.database (.commit sid)) = some after) :
    (∀ recipientId ids readAt, .read recipientId ids readAt ∈ session.queued → ∀ id ∈ ids,
      ∀ later, Reaches Realtime.step anyStep after later → ReadAgrees later id readAt) ↔
    ∀ utcNow caller, session.operation = .markAllAsRead utcNow caller →
      hub.store.heldBy sid ≠ [] → utcNow.timestamptz = utcNow := by
  have timed : hub.Timed table.rows :=
    reached.invariant (fun _ _ _ timed _ stepped => Realtime.timed_step timed stepped)
      (Realtime.start_timed table)
  have sound := timed.routed.sound
  cases Realtime.moves_of_step committed with
  | @database action store moved =>
    cases Store.moves_of_step moved with
    | @commit _ current answer isFound at_ =>
      obtain rfl : current = session := Option.some.inj (isFound.symm.trans found)
      have settled := (sound.verified.at_commit found at_).1
      constructor
      · intro agrees utcNow caller isMark nonempty
        obtain ⟨write, wrote⟩ := List.exists_mem_of_ne_nil _ nonempty
        obtain ⟨statement, isStatement, permitted⟩ := settled.made write wrote
        rw [isMark] at isStatement
        obtain rfl := Option.some.inj isStatement
        obtain ⟨row, -, isWrite⟩ := permitted
        have isRead : write = .setRead row utcNow.timestamptz := isWrite
        subst isRead
        obtain ⟨recipientId, ids, readAt, queued, named⟩ := settled.announces.announces_read wrote
        have stamp := (sound.stored timed.stamped found at_ queued named).1
        rw [isMark] at stamp
        have carried : utcNow = readAt := Option.some.inj stamp
        have shown := (agrees recipientId ids readAt queued row.id named _ (.refl _)).stored
        have left : { row with readAt := some utcNow.timestamptz } ∈
            applyWrites hub.store.rows (hub.store.heldBy sid) :=
          (mem_applyWrites sound.consistent.unique (sound.consistent.lawful sid) _).mpr
            (Or.inl ⟨_, wrote, rfl⟩)
        rw [carried]
        rw [carried] at left
        exact Option.some.inj (shown _ left rfl)
      · intro condition recipientId ids readAt queued id named later run
        obtain ⟨stamp, row, wrote, same⟩ := sound.stored timed.stamped found at_ queued named
        have kept : readAt.timestamptz = readAt := by
          cases isMark : current.operation with
          | markAsRead caller marked =>
            rw [isMark] at stamp
            rw [← Option.some.inj stamp, DateTime.timestamptz_timestamptz]
          | markAllAsRead utcNow caller =>
            rw [isMark] at stamp
            have isNow : utcNow = readAt := Option.some.inj stamp
            rw [← isNow]
            exact condition utcNow caller isMark (List.ne_nil_of_mem wrote)
          | _ =>
            rw [isMark] at stamp
            contradiction
        have stored : ∀ row ∈ later.store.rows, row.id = id → row.readAt = some readAt := by
          intro shown there onId
          have read := sound.kept_read moved wrote (Realtime.store_reaches run) there
            (onId.trans same.symm)
          rw [read, kept]
        refine ⟨stored, ?_, ?_⟩
        · intro shown there onId notification content
          have times := fromRow_same content
          rw [← stored shown there onId]
          exact times.2.1
        · intro stream member told toldAt served inTold
          have timedLater : later.Timed table.rows :=
            run.invariant (fun _ _ _ timed _ stepped => Realtime.timed_step timed stepped)
              (Realtime.timed_step timed committed)
          obtain ⟨otherId, first⟩ := timedLater.spoken.served timedLater.routed member served
          have second : .read recipientId ids readAt ∈ later.store.log := by
            apply (Store.log_of_reaches (Realtime.store_reaches run)).subset
            exact List.mem_append_right _ queued
          have once := timedLater.witnessed.reports timedLater.routed.sound id
          exact Store.read_once once first second inTold named

/-- A `markAllAsRead` that reads its clock at the instant, up to its commit. -/
def sampleMarkingAll (utcNow : DateTime) : List Realtime.Action :=
  [Store.Action.begin 0 (.markAllAsRead utcNow (sampleId 2)) ⟨9000⟩, .advance 0, .advance 0,
    .visit 0 0, .finish 0, .advance 0].map .database

/-- A reading of the clock on a microsecond. -/
def sampleRound : DateTime := ⟨1750000000000001000⟩

/-- A reading of the clock between two microseconds. -/
def sampleFine : DateTime := ⟨1750000000000001500⟩

/-- The hub before the commit of the round reading. -/
def sampleRoundMarked : Realtime :=
  (play Realtime.step (Realtime.start sampleUnread.rows) (sampleMarkingAll sampleRound)).get
    (by decide)

/-- The hub after the mark at a whole microsecond. -/
def sampleRoundCommitted : Realtime :=
  (sampleRoundMarked.step (.database (.commit 0))).get (by decide)

/-- The round reading is announced and stored alike. -/
theorem announced_read_time_iff_sample :
    ReadAgrees sampleRoundCommitted (sampleId 7) sampleRound ∧
      sampleRoundCommitted.store.rows.map Row.readAt = [some sampleRound] := by
  refine ⟨?_, by decide⟩
  have exact_ := (announced_read_time_iff sampleUnread sampleRoundMarked sampleRoundCommitted
    (reaches_of_play (Option.some_get _).symm) 0 _ rfl rfl).mpr
  refine exact_ ?_ (sampleId 2) [sampleId 7] sampleRound List.mem_cons_self (sampleId 7)
    List.mem_cons_self sampleRoundCommitted (.refl _)
  rintro utcNow caller isMark -
  injection isMark with isNow
  rw [← isNow]
  rfl

/-- The hub before the commit of the fine reading. -/
def sampleFineMarked : Realtime :=
  (play Realtime.step (Realtime.start sampleUnread.rows) (sampleMarkingAll sampleFine)).get
    (by decide)

/-- The hub after the mark between two microseconds. -/
def sampleFineCommitted : Realtime :=
  (sampleFineMarked.step (.database (.commit 0))).get (by decide)

/-- The fine reading is announced as it is, and stored without its nanoseconds. -/
theorem fine_reading_is_not_stored :
    ¬ ∀ hub after : Realtime,
      Reaches Realtime.step anyStep (Realtime.start sampleUnread.rows) hub →
      ∀ sid session, hub.store.sessions sid = some session →
      hub.step (.database (.commit sid)) = some after →
      ∀ recipientId ids readAt, .read recipientId ids readAt ∈ session.queued → ∀ id ∈ ids,
        ∀ later, Reaches Realtime.step anyStep after later → ReadAgrees later id readAt := by
  intro always
  have agrees := always sampleFineMarked sampleFineCommitted
    (reaches_of_play (Option.some_get _).symm) 0 _ rfl rfl (sampleId 2) [sampleId 7] sampleFine
    List.mem_cons_self (sampleId 7) List.mem_cons_self sampleFineCommitted (.refl _)
  have shown : sampleFineCommitted.store.rows.map Row.readAt = [some sampleFine] := by
    have one : sampleFineCommitted.store.rows.map Row.id = [sampleId 7] := by decide
    have all : sampleFineCommitted.store.rows.map Row.readAt =
        sampleFineCommitted.store.rows.map fun _ => some sampleFine := by
      refine List.map_congr_left fun row member => agrees.stored row member ?_
      have same : row.id ∈ sampleFineCommitted.store.rows.map Row.id := List.mem_map_of_mem member
      rw [one, List.mem_singleton] at same
      exact same
    exact all
  have kept : sampleFineCommitted.store.rows.map Row.readAt = [some sampleRound] := by decide
  rw [kept] at shown
  exact absurd shown (by decide)

end SvcNotifier
