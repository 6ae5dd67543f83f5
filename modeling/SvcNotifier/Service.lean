import SvcNotifier.Once
import SvcNotifier.Hydration

/-!
# From the stream of commands to the streams of clients

The intake's replicas and one process's realtime side over the one database they share. The ack of
a command says that its rows are committed, the commit of a row announces it, and the listener
hands what is announced to the streams that are open.
-/

namespace SvcNotifier

open Library

/-- A process over the database as it is now. -/
def Boot.over (boot : Boot) (store : Store) : Boot :=
  { boot with hub := { boot.hub with store := store } }

/-- The database is the one that the process is over. -/
theorem Boot.over_self {boot : Boot} {store : Store} (same : boot.hub.store = store) :
    boot.over store = boot := by
  subst same
  rfl

/-- The action is the database's, which is the intake's to take. -/
def Boot.isDatabase : Boot.Action → Bool
  | .hub (.database _) => true
  | _ => false

/-- A process does nothing else to the database. -/
theorem Boot.store_kept {boot after : Boot} {action : Boot.Action}
    (other : isDatabase action = false) (stepped : boot.step action = some after) :
    after.hub.store = boot.hub.store := by
  cases moves_of_step stepped with
  | hub admitted moved =>
    cases Realtime.moves_of_step moved with
    | database written => contradiction
    | run at_ => exact Realtime.perform_store _ _ _ _
    | _ => rfl
  | _ => rfl

/-- The replicas of the intake, and one process whose streams are watched. -/
structure Service where
  /-- The replicas, the database and the ledger. -/
  intake : Intake
  /-- The process. -/
  boot : Boot
  /-- There is one database. -/
  shared : boot.hub.store = intake.store

namespace Service

/-- Nothing has happened yet. -/
def start (natsUrl : Bool) (rows : List Row) : Service :=
  { intake := Intake.start rows, boot := Boot.start natsUrl rows, shared := rfl }

/-- What happens next. -/
inductive Action where
  /-- A replica of the intake or a session of the database takes a step. -/
  | intake (action : Intake.Action)
  /-- The process takes a step. -/
  | boot (action : Boot.Action)

variable (serde : Serde) (errorText : SqlxError → String)

/-- One step. -/
def step (service : Service) : Action → Option Service
  | .intake action => match Intake.step serde errorText service.intake action with
    | some intake => some
      { intake := intake, boot := service.boot.over intake.store, shared := rfl }
    | none => none
  | .boot action =>
    if Boot.isDatabase action then none
    else match service.boot.step action with
      | some boot => some
        { intake := service.intake, boot := boot.over service.intake.store, shared := rfl }
      | none => none

/-- Nothing fails the re-read of a row for somebody who has a stream open. -/
def Answered (service : Service) (action : Action) : Prop :=
  ∀ failure signal recipientId id next, action = .boot (.hub (.run failure)) →
    service.boot.hub.dispatching =
      some (signal, .call (.readNotificationFor recipientId id) next) →
    service.boot.hub.Watched recipientId → failure = none

/-- Nothing is committed for somebody who has a stream open before the listener listens. -/
def Covered (service : Service) : Action → Prop
  | .intake action => service.boot.listens = true ∨
      ∀ intake, Intake.step serde errorText service.intake action = some intake →
        ∀ signal ∈ intake.store.log.drop service.intake.store.log.length,
          ¬ service.boot.hub.Watched signal.recipientId
  | .boot _ => True

/-- No re-read is failed, and nothing is committed for a watcher before the listener listens. -/
def Gapless (service : Service) (action : Action) : Prop :=
  service.Answered action ∧ service.Covered serde errorText action

variable {serde errorText} {service after : Service} {action : Action} {initial : List Row}

/-- A step of the intake. -/
theorem step_intake {action : Intake.Action}
    (stepped : step serde errorText service (.intake action) = some after) :
    Intake.step serde errorText service.intake action = some after.intake ∧
      after.boot = service.boot.over after.intake.store := by
  simp only [step] at stepped
  cases moved : Intake.step serde errorText service.intake action with
  | none =>
    rw [moved] at stepped
    contradiction
  | some intake =>
    rw [moved] at stepped
    obtain rfl := Option.some.inj stepped
    exact ⟨rfl, rfl⟩

/-- A step of the process. -/
theorem step_boot {action : Boot.Action}
    (stepped : step serde errorText service (.boot action) = some after) :
    after.intake = service.intake ∧ Boot.isDatabase action = false ∧
      service.boot.step action = some after.boot := by
  simp only [step] at stepped
  by_cases writes : Boot.isDatabase action = true
  · rw [if_pos writes] at stepped
    contradiction
  · rw [if_neg writes] at stepped
    cases moved : service.boot.step action with
    | none =>
      rw [moved] at stepped
      contradiction
    | some boot =>
      rw [moved] at stepped
      obtain rfl := Option.some.inj stepped
      have other := Bool.eq_false_iff.mpr writes
      refine ⟨rfl, other, ?_⟩
      -- The process has left the database as it was.
      exact congrArg some (Boot.over_self ((Boot.store_kept other moved).trans service.shared)).symm

/-- A step is a step of the intake, or leaves it alone. -/
theorem intake_moves (stepped : step serde errorText service action = some after) :
    after.intake = service.intake ∨
      ∃ moved, Intake.step serde errorText service.intake moved = some after.intake := by
  cases action with
  | intake action => exact Or.inr ⟨action, (step_intake stepped).1⟩
  | boot action => exact Or.inl (step_boot stepped).1

/-- Where every row can be read, a re-read fails only with what it is failed with. -/
theorem heard_of_answered {action : Boot.Action} {boot : Boot}
    (hydrate : ∀ row ∈ service.intake.store.rows, row.Hydrates)
    (answered : service.Answered (.boot action))
    (stepped : service.boot.step action = some boot) : service.boot.Heard action := by
  cases action with
  | hub action =>
    refine ⟨Boot.admits_listens (Boot.admitted_of_step stepped), ?_⟩
    intro failure signal recipientId id next asked at_ watched
    subst asked
    refine ⟨answered failure signal recipientId id next rfl at_ watched, ?_⟩
    intro row member owned
    rw [service.shared] at member
    exact hydrate row member
  | _ => trivial

/-- What the process does itself leaves no gap. -/
theorem gapless_of_answered {action : Boot.Action} {boot : Boot}
    (hydrate : ∀ row ∈ service.intake.store.rows, row.Hydrates)
    (other : Boot.isDatabase action = false) (answered : service.Answered (.boot action))
    (stepped : service.boot.step action = some boot) : service.boot.Gapless action := by
  refine ⟨heard_of_answered hydrate answered stepped, ?_⟩
  cases action with
  | hub action =>
    cases action with
    | database action => contradiction
    | _ => trivial
  | _ => trivial

/-- A step is a step of the process, or leaves it alone; what the intake does to the database is a
step of the database to the process. -/
theorem boot_moves (hydrate : ∀ row ∈ service.intake.store.rows, row.Hydrates)
    (answered : service.Answered action)
    (stepped : step serde errorText service action = some after) :
    after.boot = service.boot ∨
      ∃ moved, service.boot.step moved = some after.boot ∧ service.boot.Heard moved ∧
        (service.Covered serde errorText action → service.boot.Covered moved) := by
  cases action with
  | intake action =>
    obtain ⟨moved, boot⟩ := step_intake stepped
    rw [boot]
    rcases Intake.store_of_step moved with same | ⟨database, written, -⟩
    · left
      rw [same, Boot.over_self service.shared]
    · right
      refine ⟨.hub (.database database), ?_, ⟨by simp, ?_⟩, ?_⟩
      · have taken : service.boot.hub.step (.database database) =
            some { service.boot.hub with store := after.intake.store } := by
          simp only [Realtime.step, service.shared, written]
        simp only [Boot.step, Boot.admits, if_true, taken]
        rfl
      · intro failure signal recipientId id next asked
        contradiction
      · intro covered
        refine covered.imp_right fun unwatched => ?_
        intro store stored signal member
        rw [service.shared, written] at stored
        obtain rfl := Option.some.inj stored
        rw [service.shared] at member
        exact unwatched after.intake moved signal member
  | boot action =>
    obtain ⟨-, other, moved⟩ := step_boot stepped
    obtain ⟨heard, covered⟩ := gapless_of_answered hydrate other answered moved
    exact Or.inr ⟨action, moved, heard, fun _ => covered⟩

/-- What holds of the service in every state of a run. -/
structure Sound (serde : Serde) (initial : List Row) (service : Service) : Prop where
  /-- The intake is sound. -/
  intake : Intake.Sound serde initial service.intake
  /-- What the process knows and announces is exact. -/
  boot : service.boot.Exact initial

/-- Nothing has happened yet. -/
theorem start_sound (natsUrl : Bool) (table : Notifications) :
    (start natsUrl table.rows).Sound serde table.rows :=
  ⟨Intake.start_sound table, Boot.start_exact natsUrl table⟩

/-- Every step in which no re-read is failed keeps it. -/
theorem sound_step (hydrate : ∀ row ∈ initial, row.Hydrates) (sound : service.Sound serde initial)
    (answered : service.Answered action)
    (stepped : step serde errorText service action = some after) : after.Sound serde initial := by
  constructor
  · rcases intake_moves stepped with same | ⟨moved, taken⟩
    · exact same ▸ sound.intake
    · exact Intake.sound_step sound.intake taken
  · rcases boot_moves (sound.intake.store.hydrate hydrate) answered stepped with
      same | ⟨moved, taken, heard, -⟩
    · exact same ▸ sound.boot
    · exact Boot.exact_step sound.boot heard taken

/-- A run of the service is a run of the process, and the log of its database grows. -/
theorem runs {table : Notifications} {later : Service}
    (hydrate : ∀ row ∈ table.rows, row.Hydrates) (sound : service.Sound serde table.rows)
    (run : Reaches (step serde errorText) (Gapless serde errorText) service later) :
    later.Sound serde table.rows ∧ Reaches Boot.step Boot.Gapless service.boot later.boot ∧
      service.intake.store.log <+: later.intake.store.log ∧
      service.intake.store.history <+: later.intake.store.history := by
  have keeps : ∀ (before : Service) (action : Action) (after : Service),
      (before.Sound serde table.rows ∧ Reaches Boot.step Boot.Gapless service.boot before.boot ∧
        service.intake.store.log <+: before.intake.store.log ∧
        service.intake.store.history <+: before.intake.store.history) →
      before.Gapless serde errorText action → step serde errorText before action = some after →
      after.Sound serde table.rows ∧ Reaches Boot.step Boot.Gapless service.boot after.boot ∧
        service.intake.store.log <+: after.intake.store.log ∧
        service.intake.store.history <+: after.intake.store.history := by
    rintro before action after ⟨sound, run, log, history⟩ ⟨answered, covered⟩ stepped
    refine ⟨sound_step hydrate sound answered stepped, ?_, ?_, ?_⟩
    · rcases boot_moves (sound.intake.store.hydrate hydrate) answered stepped with
        same | ⟨moved, taken, heard, covers⟩
      · exact same ▸ run
      · exact run.snoc ⟨heard, covers covered⟩ taken
    · rcases intake_moves stepped with same | ⟨moved, taken⟩
      · exact same ▸ log
      · rcases Intake.store_of_step taken with same | ⟨database, written, -⟩
        · exact same ▸ log
        · exact log.trans (Store.log_grows written)
    · rcases intake_moves stepped with same | ⟨moved, taken⟩
      · exact same ▸ history
      · rcases Intake.store_of_step taken with same | ⟨database, written, -⟩
        · exact same ▸ history
        · exact history.trans (Store.history_grows written)
  exact run.invariant keeps ⟨sound, .refl _, List.prefix_rfl, List.prefix_rfl⟩

/-- What is known of every service that is reached without a failed re-read. -/
theorem sound_of_reaches {natsUrl : Bool} {table : Notifications}
    (hydrate : ∀ row ∈ table.rows, row.Hydrates)
    (reached : Reaches (step serde errorText) Answered (start natsUrl table.rows) service) :
    service.Sound serde table.rows ∧
      Reaches Boot.step Boot.Heard (Boot.start natsUrl table.rows) service.boot := by
  have keeps : ∀ (before : Service) (action : Action) (after : Service),
      (before.Sound serde table.rows ∧
        Reaches Boot.step Boot.Heard (Boot.start natsUrl table.rows) before.boot) →
      before.Answered action → step serde errorText before action = some after →
      after.Sound serde table.rows ∧
        Reaches Boot.step Boot.Heard (Boot.start natsUrl table.rows) after.boot := by
    rintro before action after ⟨sound, run⟩ answered stepped
    refine ⟨sound_step hydrate sound answered stepped, ?_⟩
    rcases boot_moves (sound.intake.store.hydrate hydrate) answered stepped with
      same | ⟨moved, taken, heard, -⟩
    · exact same ▸ run
    · exact run.snoc heard taken
  exact reached.invariant keeps ⟨start_sound natsUrl table, .refl _⟩

end Service

/-! ## From the ack to the signal -/

namespace Store

variable {store later : Store} {initial : List Row}

/-- A row inserted since a moment is announced since then. -/
theorem announced_since (before : Sound initial store) (sound : Sound initial later)
    (single : later.Single) (log : store.log <+: later.log)
    (history : store.history <+: later.history) {row : Row}
    (inserted : .insert row ∈ later.history) (new : .insert row ∉ store.history) :
    .added row.recipientId row.id ∈ later.log.drop store.log.length := by
  obtain ⟨made, isHistory, facts, -⟩ := sound.attributed
  obtain ⟨madeBefore, isBefore, factsBefore, -⟩ := before.attributed
  have isMade : .insert row ∈ made := by
    rw [isHistory, List.mem_append] at inserted
    rcases inserted with old | new_
    · refine absurd ?_ new
      rw [isBefore]
      exact List.mem_append_left _ old
    · exact new_
  have stated : (⟨.added, row.recipientId, row.id⟩ : Fact) ∈
      later.log.flatMap NotificationSignal.facts := by
    rw [facts]
    exact List.mem_map.mpr ⟨.insert row, isMade, rfl⟩
  obtain ⟨signal, committed, states⟩ := List.mem_flatMap.mp stated
  have isAdded : signal = .added row.recipientId row.id := by
    cases signal with
    | added recipientId id =>
      obtain ⟨rfl, rfl⟩ := Fact.mk.inj (List.mem_singleton.mp states) |>.2
      rfl
    | read recipientId ids readAt =>
      obtain ⟨id, -, same⟩ := List.mem_map.mp states
      cases same
    | deleted recipientId ids =>
      obtain ⟨id, -, same⟩ := List.mem_map.mp states
      cases same
  obtain ⟨since, grown⟩ := log
  rw [← grown, List.mem_append] at committed
  rw [← grown, List.drop_left]
  rcases committed with old | recent
  · -- Its announcement would have been of another row with its id.
    have told : (⟨.added, row.recipientId, row.id⟩ : Fact) ∈ madeBefore.map Write.fact := by
      rw [← factsBefore]
      exact List.mem_flatMap.mpr ⟨signal, old, states⟩
    obtain ⟨write, written, same⟩ := List.mem_map.mp told
    cases write with
    | insert other =>
      have there : .insert other ∈ store.history := by
        rw [isBefore]
        exact List.mem_append_right _ written
      have sameId : other.id = row.id := congrArg Fact.id same
      have equal := single other row (history.subset there) inserted sameId
      exact absurd (equal ▸ there) new
    | setRead other readAt => cases same
    | delete other => cases same
  · exact isAdded ▸ recent

end Store

/-- An ack comes after a row for each recipient of the delivery's command. -/
theorem Intake.Sound.created_of_ack {serde : Serde} {initial : List Row} {intake : Intake}
    (sound : Intake.Sound serde initial intake) {number : Nat} {landed : Bool}
    {command : DeliverNotification} (accepts : Intake.Accepts serde intake number command)
    (acked : (⟨.settle .ack, landed⟩ : Event) ∈ intake.eventsOf number) :
    ∀ recipientId ∈ command.recipientIds,
      intake.store.Created (command.sourceEventId, recipientId) := by
  obtain ⟨frame, envelope, framed, decoded, valid⟩ := accepts
  obtain ⟨before, later, split⟩ := List.append_of_mem acked
  obtain ⟨-, justified, -⟩ := sound.orderly number frame framed before _ later split
  cases justified with
  | @ack envelope' command' written decoded' valid' returned =>
    obtain rfl := Except.ok.inj (decoded.symm.trans decoded')
    obtain rfl := Except.ok.inj (valid.symm.trans valid')
    refine sound.written number command written (mem_eventsOf.mp ?_)
    rw [split]
    exact List.mem_append_left _ returned

/-- A row inserted since a moment has the content of an accepted command, and the process's
database has announced it since then. -/
theorem Service.Sound.announced {serde : Serde} {initial : List Row} {service later : Service}
    (before : service.Sound serde initial) (sound : later.Sound serde initial)
    (log : service.intake.store.log <+: later.intake.store.log)
    (history : service.intake.store.history <+: later.intake.store.history) {row : Row}
    (inserted : .insert row ∈ later.intake.store.history)
    (new : .insert row ∉ service.intake.store.history) :
    Intake.Stems serde later.intake row ∧
      .added row.recipientId row.id ∈
        later.boot.hub.store.log.drop service.boot.hub.store.log.length := by
  constructor
  · rcases sound.intake.committed_stems inserted with first | stems
    · refine absurd ?_ new
      obtain ⟨made, isHistory, -⟩ := before.intake.store.attributed
      rw [isHistory]
      exact List.mem_append_left _ (List.mem_map_of_mem first)
    · exact stems
  · have single : later.intake.store.Single := later.shared ▸ sound.boot.single
    rw [later.shared, service.shared]
    exact Store.announced_since before.intake.store sound.intake.store single log history inserted
      new

/-! ## From the signal to the client -/

namespace Boot

variable {state : Boot} {stream : Stream} {initial : List Row} {mark index : Nat}

/-- The client was shown a row as added, with the content that it was inserted with. -/
def Shown (stream : Stream) (row : Row) : Prop :=
  ∃ notification readAt, Notification.fromRow { row with readAt := readAt } = .ok notification ∧
    .ok (.notificationAdded (.from notification)) ∈ stream.items

/-- What was shown is among what is counted. -/
theorem Shown.counted {row : Row} (shown : Shown stream row) :
    0 < stream.items.countP (isAddedOf row.id) := by
  obtain ⟨notification, readAt, content, served⟩ := shown
  have sameId : notification.id = row.id := (fromRow_same content).1
  rw [List.countP_pos_iff]
  exact ⟨_, served, beq_iff_eq.mpr sameId⟩

/-- A client who was served the event that the announcement of a row came to was shown the row. -/
theorem Exact.shown_of_sent (exact_ : state.Exact initial)
    (there : state.hub.streams[index]? = some stream) (open_ : stream.receiving = true) {row : Row}
    (inserted : .insert row ∈ state.hub.store.history) {entry : Dispatched}
    (due : entry ∈ state.hub.due stream) (signal : entry.signal = .added row.recipientId row.id)
    {event : ClientEvent} (sent : entry.fate = .sent event)
    (served : .ok (intoUnion event) ∈ stream.items) : Shown stream row := by
  have faithful := exact_.steady.faithful
  have member := List.mem_of_getElem? there
  have live := faithful.live stream member open_
  have accounted := (faithful.neverSkips there).accounted entry due
  unfold Dispatched.Accounted at accounted
  rw [sent, signal] at accounted
  cases event with
  | added notification =>
    have sameId : notification.id = row.id := accounted
    have inside : .added notification ∈ reckoned (state.hub.due stream) := by
      rcases fate_of_whole live.whole due with ⟨event, alsoSent, inside⟩ | gone
      · rw [sent] at alsoSent
        cases alsoSent
        exact inside
      · rw [sent] at gone
        contradiction
    have sentOn : ClientEvent.added notification ∈ state.hub.channels stream.channel := by
      rw [← live.ring] at inside
      exact List.mem_of_mem_drop inside
    obtain ⟨first, readAt, wasInserted, -, content⟩ :=
      faithful.routed.carried stream member _ sentOn
    have isRow : first = row :=
      exact_.single first row wasInserted inserted ((fromRow_same content).1.symm.trans sameId)
    rw [isRow] at content
    exact ⟨notification, readAt, content, served⟩
  | _ => contradiction

/-- A client who has read all there is has been shown what has been announced since the stream was
opened, but for what is gone. -/
theorem Exact.shown (exact_ : state.Exact initial)
    (there : state.hub.streams[index]? = some stream) (tracked : Tracked mark state stream)
    (open_ : stream.receiving = true) (caughtUp : state.ahead = [])
    (read : state.hub.step (.poll index) = none) {row : Row}
    (inserted : .insert row ∈ state.hub.store.history)
    (own : row.recipientId = stream.recipientId)
    (announced : .added row.recipientId row.id ∈ state.hub.store.log.drop mark) :
    Shown stream row ∨ state.hub.store.status row.id = .gone := by
  have steady := exact_.steady
  have member := List.mem_of_getElem? there
  have skips := steady.faithful.neverSkips there
  have kept := tracked.kept steady member open_
  have isDue : .added row.recipientId row.id ∈
      (state.hub.due stream).map Dispatched.signal := by
    have ofStream : .added row.recipientId row.id ∈
        ofRecipient stream (state.hub.store.log.drop mark) :=
      List.mem_filter.mpr ⟨announced, beq_iff_eq.mpr own⟩
    have inside := kept.subset ofStream
    rw [caughtUp] at inside
    simpa [ofRecipient] using inside
  obtain ⟨entry, due, signal⟩ := List.mem_map.mp isDue
  have live := steady.faithful.live stream member open_
  rcases fate_of_whole live.whole due with ⟨event, sent, inside⟩ | gone
  · left
    -- The client has been served everything the stream was due.
    have whole : (reckoned (state.hub.due stream)).length ≤ stream.items.length := by
      by_contra short
      have next := List.getElem?_eq_getElem (Nat.lt_of_not_le short)
      rcases skips.served open_ _ next with ⟨_, after, _, _, stepped, _⟩ |
        ⟨_, _, after, _, _, stepped, _⟩
      · rw [read] at stepped
        contradiction
      · rw [read] at stepped
        contradiction
    have isServed : .ok (intoUnion event) ∈ stream.items := by
      obtain ⟨events, verdict, items, some_, tail⟩ := skips.inOrder
      have none_ : verdict = [] := by
        rcases tail with none_ | ⟨closed, -⟩
        · exact none_
        · rw [open_] at closed
          contradiction
      have all : events = reckoned (state.hub.due stream) := by
        apply some_.eq_of_length_le
        rwa [items, none_, List.append_nil, List.length_map] at whole
      rw [items, none_, List.append_nil, all]
      exact List.mem_map_of_mem inside
    exact exact_.shown_of_sent there open_ inserted due signal sent isServed
  · exact Or.inr (exact_.removals entry
      (List.mem_of_mem_drop (List.mem_filter.mp due).1) gone _ _ signal)

end Boot

/-! ## The main result -/

/-- An acked command is streamed to its recipients, once. Take any stream of a recipient, in any
run of the replicas, the clients, the listener and the database in which the listener keeps its
connection, no re-read of that process is failed and nothing is committed for somebody with a
stream open before it listens. Whenever any delivery of a command for the recipient has been acked,
and no row of that dedup key had been committed when the stream was opened, a row of that key is
committed, with the content of an accepted command. The stream never serves its `Added` twice; and
while it is open, once the listener has come to the end of the log and the client has read all
there is, it has served it, with that content, or the row has been deleted. -/
theorem acked_command_is_streamed_once (serde : Serde) (errorText : SqlxError → String)
    (natsUrl : Bool) (table : Notifications) (hydrate : ∀ row ∈ table.rows, row.Hydrates)
    (service opened later : Service) (ctx : Context) (caller : Uuid)
    (reached : Reaches (Service.step serde errorText) Service.Answered
      (Service.start natsUrl table.rows) service)
    (resolved : recipient ctx = .ok caller)
    (subscribed : service.step serde errorText (.boot (.hub (.subscribe ctx))) = some opened)
    (run : Reaches (Service.step serde errorText) (Service.Gapless serde errorText) opened later) :
    ∃ stream, later.boot.hub.streams[service.boot.hub.streams.length]? = some stream ∧
      stream.recipientId = caller ∧
      (∀ id, stream.items.countP (isAddedOf id) ≤ 1) ∧
      ∀ number command landed, Intake.Accepts serde later.intake number command →
        (⟨.settle .ack, landed⟩ : Event) ∈ later.intake.eventsOf number →
        caller ∈ command.recipientIds →
        ¬ service.intake.store.Created (command.sourceEventId, caller) →
        ∃ row, .insert row ∈ later.intake.store.history ∧
          row.key = (command.sourceEventId, caller) ∧ Intake.Stems serde later.intake row ∧
          (stream.receiving = true → later.boot.ahead = [] →
            later.boot.hub.step (.poll service.boot.hub.streams.length) = none →
            Boot.Shown stream row ∨ later.intake.store.status row.id = .gone) := by
  obtain ⟨sound, isRun⟩ := Service.sound_of_reaches hydrate reached
  obtain ⟨same, -, taken⟩ := Service.step_boot subscribed
  have answered : service.Answered (.boot (.hub (.subscribe ctx))) := by
    intro failure signal recipientId id next asked
    cases asked
  have openedSound : opened.Sound serde table.rows :=
    Service.sound_step hydrate sound answered subscribed
  obtain ⟨laterSound, onward, log, history⟩ := Service.runs hydrate openedSound run
  rw [same] at log history
  obtain ⟨-, stream, there, own, tracked⟩ :=
    Boot.tracked_of_opened isRun resolved taken onward
  refine ⟨stream, there, own, ?_, ?_⟩
  · exact fun id => laterSound.boot.steady.served_once laterSound.boot.recounted there id
  · intro number command landed accepts acked addressed new
    obtain ⟨row, inserted, key⟩ :=
      laterSound.intake.created_of_ack accepts acked caller addressed
    have fresh : .insert row ∉ service.intake.store.history :=
      fun old => new ⟨row, old, key⟩
    have isCaller : row.recipientId = caller := congrArg Prod.snd key
    obtain ⟨stems, announced⟩ := sound.announced laterSound log history inserted fresh
    refine ⟨row, inserted, key, stems, ?_⟩
    intro open_ caughtUp read
    have shown := laterSound.boot.shown there tracked open_ caughtUp read
      (later.shared ▸ inserted) (isCaller.trans own.symm) announced
    rw [later.shared] at shown
    exact shown

/-- One step of the service. -/
def sampleServiceStep : Service → Service.Action → Option Service :=
  Service.step sampleSerde fun _ => ""

/-- The process listens and serves. -/
def sampleServing : List Service.Action :=
  [.main, .connect, .listen, .main, .main, .main, .main, .main].map .boot

/-- The frame is delivered, and once more since its ack is lost; the second fan-out inserts no
row and announces nothing. -/
def sampleAckedTwice : List Intake.Action :=
  sampleDelivery 0 10 ++
    [.settle 0 false, .finish 0, .deliver 0 sampleFrame,
      .openFanOut 0 1 (fun i => sampleId (i + 20)) ⟨0⟩, .database (.advance 1),
      .database (.visit 1 0), .database (.visit 1 0), .database (.finish 1),
      .database (.commit 1), .fanOutReturns 0, .settle 0 true, .finish 0]

/-- The listener dispatches the two signals of its rows, and the client reads. -/
def sampleShowing : List Realtime.Action :=
  sampleDispatch ++ [.receive, .run none, .finish, .poll 0]

/-- The service before a client opens a stream. -/
def sampleIdle : Service :=
  (play sampleServiceStep (Service.start false []) sampleServing).get (by decide)

/-- The service with the stream open. -/
def sampleWatched : Service :=
  (sampleServiceStep sampleIdle (.boot (.hub (.subscribe sampleReader)))).get (by decide)

/-- Where the two deliveries lead. -/
def sampleStreamed : Service :=
  (play sampleServiceStep sampleWatched (sampleAckedTwice.map .intake ++
    sampleShowing.map fun action => .boot (.hub action))).get (by decide)

/-- No re-read is failed, and the listener listens. -/
def sampleGapless (service : Service) : Service.Action → Bool
  | .intake _ => service.boot.listens
  | .boot (.hub (.run failure)) => failure.isNone
  | .boot _ => true

/-- The command was acked twice, and its row is served once. -/
theorem acked_command_is_streamed_once_sample :
    ∃ stream, sampleStreamed.boot.hub.streams[0]? = some stream ∧
      (∀ id, stream.items.countP (isAddedOf id) ≤ 1) ∧
      stream.items.countP (isAddedOf (sampleId 10)) = 1 := by
  have answered : ∀ (service : Service) (action : Service.Action),
      sampleGapless service action = true → service.Answered action := by
    rintro service action checked failure signal recipientId id next rfl _ _
    exact Option.isNone_iff_eq_none.mp checked
  have gapless : ∀ (service : Service) (action : Service.Action),
      sampleGapless service action = true →
        service.Gapless sampleSerde (fun _ => "") action := by
    intro service action checked
    refine ⟨answered service action checked, ?_⟩
    cases action with
    | intake action => exact Or.inl checked
    | boot action => trivial
  have hydrate : ∀ row ∈ Notifications.empty.rows, row.Hydrates := by
    intro row member
    contradiction
  have served : play (fun service action => if sampleGapless service action then
      sampleServiceStep service action else none) (Service.start false []) sampleServing =
      some sampleIdle := rfl
  have streamed : play (fun service action => if sampleGapless service action then
      sampleServiceStep service action else none) sampleWatched
      (sampleAckedTwice.map .intake ++
        sampleShowing.map fun action => .boot (.hub action)) = some sampleStreamed := rfl
  obtain ⟨stream, there, -, once, -⟩ :=
    acked_command_is_streamed_once sampleSerde (fun _ => "") false .empty hydrate sampleIdle
      sampleWatched sampleStreamed sampleReader (sampleId 2)
      ⟨_, steps_of_checked_play served answered⟩ rfl (Option.some_get _).symm
      ⟨_, steps_of_checked_play streamed gapless⟩
  refine ⟨stream, there, once, ?_⟩
  have one : (sampleStreamed.boot.hub.streams[0]?.map fun stream =>
      stream.items.countP (isAddedOf (sampleId 10))) = some 1 := by decide
  have isFirst : sampleStreamed.boot.hub.streams[0]? = some stream := there
  rw [isFirst] at one
  exact Option.some.inj one

end SvcNotifier
