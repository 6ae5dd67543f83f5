import SvcNotifier.Service
import SvcNotifier.Publisher
import SvcNotifier.LivePath

/-!
# From a publisher to a client

The stream of commands and its durable, the replicas that consume it, the sessions of the database
and one process with its listener and its streams. A run of all of these is at once a run of the
durable and a run of the process, each standing still while the other moves. So what storage
brings to the table once it has recovered, the listener brings to the clients.
-/

namespace SvcNotifier

open Library

/-- The durable with the intake behind it, and one process whose streams are watched. -/
structure Pipeline where
  /-- The stream, its durable and the intake. -/
  durable : Durable
  /-- The process. -/
  boot : Boot
  /-- There is one database. -/
  shared : boot.hub.store = durable.intake.store

namespace Pipeline

/-- The durable and the process start over one table. -/
theorem start_shared (natsUrl : Bool) (rows : List Row) :
    (Boot.start natsUrl rows).hub.store = (Durable.start rows).intake.store := rfl

/-- Nothing has happened yet. -/
def start (natsUrl : Bool) (rows : List Row) : Pipeline :=
  { durable := Durable.start rows, boot := Boot.start natsUrl rows,
    shared := start_shared natsUrl rows }

/-- What happens next. -/
inductive Action where
  /-- A publisher, the durable, a replica or a session of the database takes a step. -/
  | durable (action : Durable.Action)
  /-- The process takes a step. -/
  | boot (action : Boot.Action)

variable (serde : Serde) (errorText : SqlxError → String)

/-- One step. -/
def step (pipeline : Pipeline) : Action → Option Pipeline
  | .durable action => match pipeline.durable.step serde errorText action with
    | some durable => some
      { durable := durable, boot := pipeline.boot.over durable.intake.store, shared := rfl }
    | none => none
  | .boot action =>
    if Boot.isDatabase action then none
    else match pipeline.boot.step action with
      | some boot => some
        { durable := pipeline.durable, boot := boot.over pipeline.durable.intake.store,
          shared := rfl }
      | none => none

/-- The service without the stream of its commands. -/
def service (pipeline : Pipeline) : Service :=
  { intake := pipeline.durable.intake, boot := pipeline.boot, shared := pipeline.shared }

/-- What a step is to the service. A message that is published reaches nobody yet. -/
def ofService (pipeline : Pipeline) : Action → Option Service.Action
  | .durable (.publish _) => none
  | .durable (.deliver replica seq deliveredCount) =>
    pipeline.durable.stream[seq]?.map fun message =>
      .intake (.deliver replica ⟨message, deliveredCount⟩)
  | .durable (.intake action) => some (.intake action)
  | .boot action => some (.boot action)

/-- A message that is published under a `command_id` that is on the stream replays its payload, no
re-read is failed, and nothing is committed for somebody with a stream open before the listener
listens. -/
def Gapless (pipeline : Pipeline) (action : Action) : Prop :=
  (∀ own, action = .durable own → pipeline.durable.Identifies own) ∧
  ∀ own, pipeline.ofService action = some own → pipeline.service.Gapless serde errorText own

variable {serde errorText} {pipeline after : Pipeline} {action : Action}

/-- A step of the durable. -/
theorem step_durable {action : Durable.Action}
    (stepped : step serde errorText pipeline (.durable action) = some after) :
    pipeline.durable.step serde errorText action = some after.durable ∧
      after.boot = pipeline.boot.over after.durable.intake.store := by
  simp only [step] at stepped
  cases moved : pipeline.durable.step serde errorText action with
  | none =>
    rw [moved] at stepped
    contradiction
  | some durable =>
    rw [moved] at stepped
    obtain rfl := Option.some.inj stepped
    exact ⟨rfl, rfl⟩

/-- A step of the process. -/
theorem step_boot {action : Boot.Action}
    (stepped : step serde errorText pipeline (.boot action) = some after) :
    after.durable = pipeline.durable ∧ Boot.isDatabase action = false ∧
      pipeline.boot.step action = some after.boot := by
  simp only [step] at stepped
  by_cases writes : Boot.isDatabase action = true
  · rw [if_pos writes] at stepped
    contradiction
  · rw [if_neg writes] at stepped
    cases moved : pipeline.boot.step action with
    | none =>
      rw [moved] at stepped
      contradiction
    | some boot =>
      rw [moved] at stepped
      obtain rfl := Option.some.inj stepped
      have other := Bool.eq_false_iff.mpr writes
      refine ⟨rfl, other, ?_⟩
      exact congrArg some
        (Boot.over_self ((Boot.store_kept other moved).trans pipeline.shared)).symm

/-- A step is a step of the service, or leaves it alone. -/
theorem service_moves (stepped : step serde errorText pipeline action = some after) :
    (pipeline.ofService action = none ∧ after.service = pipeline.service) ∨
      ∃ own, pipeline.ofService action = some own ∧
        Service.step serde errorText pipeline.service own = some after.service := by
  cases action with
  | durable action =>
    obtain ⟨moved, boot⟩ := step_durable stepped
    obtain ⟨durable, now, same⟩ := after
    obtain rfl : now = pipeline.boot.over durable.intake.store := boot
    have intakeMoves : ∀ own, Intake.step serde errorText pipeline.durable.intake own =
        some durable.intake → Service.step serde errorText pipeline.service (.intake own) =
          some (service ⟨durable, _, same⟩) := by
      intro own taken
      simp only [Service.step, service, taken]
    cases Durable.moves_of_step moved with
    | publish =>
      left
      refine ⟨rfl, ?_⟩
      simp only [service, Boot.over_self pipeline.shared]
    | deliver unsettled there taken =>
      refine Or.inr ⟨_, ?_, intakeMoves _ taken⟩
      simp only [ofService, there, Option.map_some]
    | intake own taken => exact Or.inr ⟨_, rfl, intakeMoves _ taken⟩
  | boot action =>
    obtain ⟨same, other, moved⟩ := step_boot stepped
    refine Or.inr ⟨_, rfl, ?_⟩
    obtain ⟨durable, boot, shared⟩ := after
    obtain rfl : durable = pipeline.durable := same
    have isNext : pipeline.boot.step action = some boot := moved
    simp only [Service.step, service, other, isNext, Boot.over_self shared, Bool.false_eq_true,
      if_false]

variable {table : Notifications} {later : Pipeline} {natsUrl : Bool}

/-- A run is a run of the service and one of the durable. -/
theorem runs (run : Reaches (step serde errorText) (Gapless serde errorText) pipeline later) :
    Reaches (Service.step serde errorText) (Service.Gapless serde errorText) pipeline.service
        later.service ∧
      Reaches (Durable.step serde errorText) Durable.Identifies pipeline.durable later.durable := by
  have keeps : ∀ (before : Pipeline) (action : Action) (after : Pipeline),
      (Reaches (Service.step serde errorText) (Service.Gapless serde errorText) pipeline.service
          before.service ∧
        Reaches (Durable.step serde errorText) Durable.Identifies pipeline.durable before.durable) →
      before.Gapless serde errorText action → step serde errorText before action = some after →
      Reaches (Service.step serde errorText) (Service.Gapless serde errorText) pipeline.service
          after.service ∧
        Reaches (Durable.step serde errorText) Durable.Identifies
          pipeline.durable after.durable := by
    rintro before action after ⟨ofService, ofDurable⟩ ⟨identifies, gapless⟩ stepped
    constructor
    · rcases service_moves stepped with ⟨-, same⟩ | ⟨own, isOwn, moved⟩
      · exact same ▸ ofService
      · exact ofService.snoc (gapless own isOwn) moved
    · cases action with
      | durable action => exact ofDurable.snoc (identifies action rfl) (step_durable stepped).1
      | boot action => exact (step_boot stepped).1 ▸ ofDurable
  exact run.invariant keeps ⟨.refl _, .refl _⟩

/-- What holds of the pipeline in every state of a run. -/
structure Sound (serde : Serde) (initial : List Row) (pipeline : Pipeline) : Prop where
  /-- The durable is sound. -/
  durable : pipeline.durable.Sound serde initial
  /-- So is the service. -/
  service : pipeline.service.Sound serde initial

/-- Whatever is reached is sound, and the process has left no gap. -/
theorem sound_of_reaches (hydrate : ∀ row ∈ table.rows, row.Hydrates)
    (run : Reaches (step serde errorText) (Gapless serde errorText) (start natsUrl table.rows)
      pipeline) :
    pipeline.Sound serde table.rows ∧
      Reaches Boot.step Boot.Gapless (Boot.start natsUrl table.rows) pipeline.boot := by
  obtain ⟨ofService, ofDurable⟩ := runs run
  obtain ⟨service, boot, -⟩ :=
    Service.runs hydrate (Service.start_sound natsUrl table) ofService
  have durable := Durable.sound_of_reaches (fun _ _ identifies => identifies)
    (Durable.start_sound table) ofDurable
  exact ⟨⟨durable, service⟩, boot⟩

/-- A step is nothing to a party but what the party does itself. -/
def ShowsBoot (action : Action) (own : Boot.Action) : Prop :=
  ∀ moved, action = .boot moved → own = moved

/-- While `main` serves, every step is a step of the process: a query, where the process does
not move. -/
theorem boot_follows (sound : pipeline.Sound serde table.rows)
    (hydrate : ∀ row ∈ table.rows, row.Hydrates) (serves : pipeline.boot.serves = true)
    (gapless : pipeline.Gapless serde errorText action)
    (stepped : step serde errorText pipeline action = some after) :
    ∃ own, ShowsBoot action own ∧ pipeline.boot.Gapless own ∧
      pipeline.boot.step own = some after.boot := by
  have hydrates := sound.durable.intake.store.hydrate hydrate
  cases action with
  | durable action =>
    have still : after.boot = pipeline.boot → ∃ own,
        ShowsBoot (.durable action) own ∧ pipeline.boot.Gapless own ∧
          pipeline.boot.step own = some after.boot := by
      intro same
      refine ⟨.snapshot, fun _ other => by contradiction, ⟨trivial, trivial⟩, ?_⟩
      simp only [Boot.step, serves, if_true, same]
    rcases service_moves stepped with ⟨-, same⟩ | ⟨own, isOwn, moved⟩
    · exact still (congrArg Service.boot same)
    · obtain ⟨answered, covered⟩ := gapless.2 own isOwn
      rcases Service.boot_moves hydrates answered moved with same | ⟨taken, isStep, heard, covers⟩
      · exact still same
      · exact ⟨taken, fun _ other => by contradiction, ⟨heard, covers covered⟩, isStep⟩
  | boot action =>
    obtain ⟨-, other, moved⟩ := step_boot stepped
    have answered := (gapless.2 _ rfl).1
    have ofProcess : pipeline.service.boot.Gapless action :=
      Service.gapless_of_answered hydrates other answered moved
    exact ⟨action, fun _ same => Action.boot.inj same, ofProcess, moved⟩

/-- `main` goes on serving. -/
theorem serves_step (sound : pipeline.Sound serde table.rows)
    (hydrate : ∀ row ∈ table.rows, row.Hydrates)
    (up : pipeline.boot.Up ∧ pipeline.boot.serves = true)
    (gapless : pipeline.Gapless serde errorText action)
    (stepped : step serde errorText pipeline action = some after) :
    after.boot.Up ∧ after.boot.serves = true := by
  obtain ⟨own, -, -, moved⟩ := boot_follows sound hydrate up.2 gapless stepped
  have next := Boot.up_step up.1 moved
  exact ⟨next.1, next.2 up.2⟩

/-- A step of the process. -/
def OfBoot (mine : Boot.Action → Prop) : Action → Prop
  | .durable _ => False
  | .boot own => mine own

/-- A stream a recipient opens at a moment of a run and keeps open: its ring does not overflow,
and the listener and the client get their turns. -/
structure Attended {guard : Pipeline → Action → Prop}
    (run : Endless (step serde errorText) guard (start natsUrl table.rows)) (moment : Nat)
    (caller : Uuid) : Prop where
  /-- The recipient opens it at that moment. -/
  opens : ∃ ctx, recipient ctx = .ok caller ∧ run.label moment = .boot (.hub (.subscribe ctx))
  /-- It stays open from then on. -/
  stays : ∀ later, moment < later → ∃ stream,
    (run.state later).boot.hub.streams[(run.state moment).boot.hub.streams.length]? =
      some stream ∧ stream.receiving = true
  /-- The listener gets its turns. -/
  listener : run.Fair (OfBoot Boot.Action.ofListener)
  /-- So does the client. -/
  client : run.Fair
    (OfBoot (· = .hub (.poll (run.state moment).boot.hub.streams.length)))

/-- What the process can do by itself, it can do here. -/
theorem enabled_of_boot {mine : Boot.Action → Prop}
    (foreign : ∀ own, mine own → Boot.isDatabase own = false)
    (enabled : Endless.Enabled Boot.step mine pipeline.boot) :
    Endless.Enabled (step serde errorText) (OfBoot mine) pipeline := by
  obtain ⟨own, isMine, on⟩ := enabled
  obtain ⟨boot, moved⟩ := Option.isSome_iff_exists.mp on
  refine ⟨.boot own, isMine, ?_⟩
  simp only [step, foreign own isMine, moved, Bool.false_eq_true, if_false, Option.isSome_some]

section

variable {run : Endless (step serde errorText) (Gapless serde errorText)
    (start natsUrl table.rows)} {moment : Nat} {caller : Uuid}

/-- The process serves from the moment on at which the stream is opened. -/
theorem Attended.serves (attended : Attended run moment caller)
    (hydrate : ∀ row ∈ table.rows, row.Hydrates) :
    ∀ later, moment ≤ later → (run.state later).boot.serves = true := by
  have sounds : ∀ n, (run.state n).Sound serde table.rows :=
    fun n => (sound_of_reaches hydrate (run.reaches n)).1
  obtain ⟨ctx, -, opens⟩ := attended.opens
  have moved := run.moved moment
  rw [opens] at moved
  have served : (run.state moment).boot.serves = true :=
    Boot.admitted_of_step (step_boot moved).2.2
  have up : (run.state moment).boot.Up := by
    have begins : (Boot.start natsUrl table.rows).Up := ⟨rfl, Nat.zero_le 8⟩
    exact (sound_of_reaches hydrate (run.reaches moment)).2.invariant
      (fun _ _ _ up _ stepped => (Boot.up_step up stepped).1) begins
  intro later after
  have stays := run.stays (fun pipeline => pipeline.boot.Up ∧ pipeline.boot.serves = true)
    (fun m _ held => serves_step (sounds m) hydrate held (run.met m) (run.moved m)) ⟨up, served⟩
  exact (stays later after).2

/-- What is attended to in the pipeline is attended to in a run of the process alone, which
stands in the same states from that moment on. -/
theorem Attended.ofProcess (attended : Attended run moment caller)
    (hydrate : ∀ row ∈ table.rows, row.Hydrates) :
    ∃ (image : Endless Boot.step Boot.Gapless (Boot.start natsUrl table.rows)) (length : Nat),
      Boot.Attended image length caller ∧
        ∀ n, image.state (n + length) = (run.state (moment + n)).boot := by
  obtain ⟨ctx, resolved, opens⟩ := attended.opens
  obtain ⟨tail, shown⟩ := run.through Pipeline.boot ShowsBoot moment fun n later =>
    boot_follows (sound_of_reaches hydrate (run.reaches n)).1 hydrate
      (attended.serves hydrate n later) (run.met n) (run.moved n)
  obtain ⟨actions, before⟩ := (sound_of_reaches hydrate (run.reaches moment)).2
  obtain ⟨image, same⟩ := before.prolonged tail
  have states : ∀ n, image.state (n + actions.length) = (run.state (moment + n)).boot :=
    fun n => (same n).1.trans (shown n).1
  have first : image.state actions.length = (run.state moment).boot := by
    have at_ := states 0
    rwa [Nat.zero_add] at at_
  have follows : ∀ (mine : Boot.Action → Prop), run.Fair (OfBoot mine) →
      (∀ own, mine own → Boot.isDatabase own = false) → image.Fair mine := by
    intro mine fair foreign
    refine Endless.fair_prolonged same (Endless.fair_through shown fair ?_ ?_)
    · exact fun n => enabled_of_boot foreign
    · intro action own shows isMine
      cases action with
      | durable action => exact isMine.elim
      | boot action => exact shows action rfl ▸ isMine
  refine ⟨image, actions.length, ⟨⟨ctx, resolved, ?_⟩, ?_, ?_, ?_⟩, states⟩
  · have label := (same 0).2
    rw [Nat.zero_add] at label
    rw [label]
    exact (shown 0).2 _ opens
  · intro later after
    obtain ⟨k, rfl⟩ := Nat.exists_eq_add_of_lt after
    have at_ := states (k + 1)
    rw [Nat.add_comm (k + 1) actions.length] at at_
    obtain ⟨stream, there, open_⟩ := attended.stays (moment + (k + 1)) (by omega)
    refine ⟨stream, ?_, open_⟩
    rw [first]
    show (image.state (actions.length + (k + 1))).hub.streams[_]? = _
    rw [at_]
    exact there
  · apply follows _ attended.listener
    intro own listens
    cases own with
    | hub action =>
      cases action with
      | database action => exact listens.elim
      | _ => rfl
    | _ => rfl
  · rw [first]
    apply follows _ attended.client
    rintro own rfl
    rfl

end

/-! ## What becomes of a command -/

/-- What has become of a published command, to a recipient with a stream open. -/
inductive Told (serde : Serde) (pipeline : Pipeline) (index : Nat) (caller commandId : Uuid)
    (command : DeliverNotification) : Prop where
  /-- The client has been shown the notification, once. -/
  | shown {stream : Stream} {row : Row}
      (there : pipeline.boot.hub.streams[index]? = some stream)
      (inserted : .insert row ∈ pipeline.durable.intake.store.history)
      (key : row.key = (command.sourceEventId, caller))
      (stems : Intake.Stems serde pipeline.durable.intake row) (shown : Boot.Shown stream row)
      (once : stream.items.countP (isAddedOf row.id) = 1)
  /-- The notification has been deleted. -/
  | deleted {row : Row} (inserted : .insert row ∈ pipeline.durable.intake.store.history)
      (key : row.key = (command.sourceEventId, caller))
      (stems : Intake.Stems serde pipeline.durable.intake row)
      (gone : pipeline.durable.intake.store.status row.id = .gone)
  /-- PostgreSQL has refused the rows of the command for good, and the ledger names everybody. -/
  | rejected (letter : DeadLetter) (recorded : letter ∈ pipeline.durable.intake.recorded)
      (same : letter.commandId = commandId) (kept : letter.command = command.encode)
      (reason : letter.reason = DeadLetterReason.storageRejected.asStr)
      (recipients : letter.recipientIds = command.recipientIds)
  /-- The command is not deliverable, and the ledger says why. -/
  | refused (letter : DeadLetter) (recorded : letter ∈ pipeline.durable.intake.recorded)
      (same : letter.commandId = commandId) (kept : letter.command = command.encode)
      (undeliverable : ¬ command.Deliverable)

section

variable {run : Endless (step serde errorText) (Gapless serde errorText)
    (start natsUrl table.rows)} {moment : Nat} {caller : Uuid}

/-- What is known of two moments of a run. -/
theorem sound_on (hydrate : ∀ row ∈ table.rows, row.Hydrates)
    (run : Endless (step serde errorText) (Gapless serde errorText) (start natsUrl table.rows))
    {first last : Nat} (later : first ≤ last) :
    (run.state first).Sound serde table.rows ∧ (run.state last).Sound serde table.rows ∧
      (run.state first).durable.intake.store.log <+: (run.state last).durable.intake.store.log ∧
      (run.state first).durable.intake.store.history <+:
        (run.state last).durable.intake.store.history := by
  have before := (sound_of_reaches hydrate (run.reaches first)).1
  obtain ⟨-, -, log, history⟩ :=
    Service.runs hydrate before.service (runs (run.reaches_on first later)).1
  exact ⟨before, (sound_of_reaches hydrate (run.reaches last)).1, log, history⟩

/-- A row that is committed while a stream of its recipient is attended to is shown to the client,
or deleted. -/
theorem Attended.shows (attended : Attended run moment caller)
    (hydrate : ∀ row ∈ table.rows, row.Hydrates) {now : Nat} {row : Row}
    (inserted : .insert row ∈ (run.state now).durable.intake.store.history)
    (own : row.recipientId = caller)
    (new : .insert row ∉ (run.state moment).durable.intake.store.history) :
    ∃ m, now ≤ m ∧ .insert row ∈ (run.state m).durable.intake.store.history ∧
      Intake.Stems serde (run.state m).durable.intake row ∧
      ((run.state m).durable.intake.store.status row.id = .gone ∨ ∃ stream,
        (run.state m).boot.hub.streams[(run.state moment).boot.hub.streams.length]? =
          some stream ∧ Boot.Shown stream row ∧
        stream.items.countP (isAddedOf row.id) = 1) := by
  have after : moment < now := by
    by_contra early
    obtain ⟨-, -, -, history⟩ := sound_on hydrate run (Nat.not_lt.mp early)
    exact new (history.subset inserted)
  obtain ⟨before, sound, log, history⟩ := sound_on hydrate run (Nat.le_of_lt after)
  obtain ⟨-, announced⟩ := before.service.announced sound.service log history inserted new
  obtain ⟨offset, at_⟩ := List.mem_iff_getElem?.mp announced
  rw [List.getElem?_drop] at at_
  -- The process alone serves the announcement in the end.
  obtain ⟨image, length, ofProcess, states⟩ := attended.ofProcess hydrate
  obtain ⟨k, rfl⟩ := Nat.exists_eq_add_of_lt after
  have first : image.state length = (run.state moment).boot := by
    have same := states 0
    rwa [Nat.zero_add] at same
  have atNow : image.state (length + (k + 1)) = (run.state (moment + k + 1)).boot := by
    rw [Nat.add_comm length]
    exact states (k + 1)
  have since : (image.state length).hub.store.log.length ≤
      (run.state moment).boot.hub.store.log.length + offset := by
    rw [first]
    exact Nat.le_add_right _ _
  have committed : (image.state (length + (k + 1))).hub.store.log[
      (run.state moment).boot.hub.store.log.length + offset]? =
        some (.added row.recipientId row.id) := by
    rw [atNow]
    exact at_
  obtain ⟨last, later, served⟩ := ofProcess.served (by omega) since committed own
  obtain ⟨j, rfl⟩ := Nat.exists_eq_add_of_le later
  have atLast : image.state (length + (k + 1) + j) = (run.state (moment + (k + 1 + j))).boot := by
    rw [Nat.add_assoc, Nat.add_comm length]
    exact states (k + 1 + j)
  rw [atLast, first] at served
  obtain ⟨stream, entry, there, due, signal, fate⟩ := served
  -- Where it has, the stream is still open.
  have past : moment + k + 1 ≤ moment + (k + 1 + j) := by omega
  obtain ⟨-, soundLast, -, grown⟩ := sound_on hydrate run past
  obtain ⟨-, -, logLast, historyLast⟩ :=
    sound_on hydrate run (Nat.le_add_right moment (k + 1 + j))
  have still := grown.subset inserted
  obtain ⟨stems, -⟩ :=
    before.service.announced soundLast.service logLast historyLast still new
  obtain ⟨same, again, open_⟩ := attended.stays (moment + (k + 1 + j)) (by omega)
  rw [there] at again
  obtain rfl := Option.some.inj again
  have exact_ := soundLast.service.boot
  have inside : .insert row ∈ (run.state (moment + (k + 1 + j))).boot.hub.store.history := by
    rw [Pipeline.shared]
    exact still
  refine ⟨moment + (k + 1 + j), past, still, stems, ?_⟩
  rcases fate with ⟨event, sent, -, isServed⟩ | ⟨gone, -⟩
  · right
    have shown := exact_.shown_of_sent there open_ inside due signal sent isServed
    have once := exact_.steady.served_once exact_.recounted there row.id
    exact ⟨stream, there, shown, Nat.le_antisymm once shown.counted⟩
  · left
    rw [← Pipeline.shared]
    exact exact_.removals entry (List.mem_of_mem_drop (List.mem_filter.mp due).1) gone _ _ signal

end

end Pipeline

/-! ## The main result -/

end SvcNotifier
