import SvcNotifier.Intake.Refusal
import SvcNotifier.Intake.Settlement
import SvcNotifier.Library.Schema

/-!
# What a ledger row says

A row of `dead_letters` is built on one of two paths, from a payload that is refused or from a
write that failed, and by any replica that handles the frame. Each row tells its frame and why
that was abandoned, so that it can be checked by validating the payload again; and the table, as
migrations 0002 to 0004 leave it, refuses none.
-/

namespace SvcNotifier

open Library Program

/-! ## The table -/

/-- The types of the columns of `dead_letters`. -/
inductive ColumnType where
  /-- `UUID`. -/
  | uuid
  /-- `UUID[]`. -/
  | uuidArray
  /-- `BYTEA`. -/
  | bytea
  /-- `TEXT`. -/
  | text
  /-- `TIMESTAMPTZ`. -/
  | timestamptz
  deriving DecidableEq, Repr

/-- A value that is not NULL. -/
inductive ColumnValue where
  /-- An identifier. -/
  | uuid (id : Uuid)
  /-- Identifiers. -/
  | uuids (ids : List Uuid)
  /-- Bytes. -/
  | bytes (bytes : List UInt8)
  /-- A text. -/
  | text (text : String)
  /-- An instant. -/
  | instant (instant : DateTime)
  deriving DecidableEq

/-- What a column may hold unless an INSERT says otherwise. -/
inductive ColumnDefault where
  /-- `now()`. -/
  | now
  /-- A text. -/
  | text (text : String)
  deriving DecidableEq, Repr

/-- A text that PostgreSQL can store: it has no U+0000. -/
def storable (text : String) : Bool := text.toList.all fun c => c.toNat != 0

/-- The value is of the type. -/
def ColumnValue.hasType : ColumnType → ColumnValue → Bool
  | .uuid, .uuid _ => true
  | .uuidArray, .uuids _ => true
  | .bytea, .bytes _ => true
  | .text, .text characters => storable characters
  | .timestamptz, .instant _ => true
  | _, _ => false

/-- A default at an instant. -/
def ColumnDefault.evaluate (now : DateTime) : ColumnDefault → ColumnValue
  | .now => .instant now.timestamptz
  | .text characters => .text characters

/-- The statements of migrations 0002 to 0004 that bear on what `dead_letters` admits. -/
def deadLetterMigrations : List (Ddl ColumnType ColumnDefault) :=
  [.createTable
      [⟨"id", .uuid, true, none⟩, ⟨"command_id", .uuid, true, none⟩,
        ⟨"source_event_id", .uuid, true, none⟩, ⟨"recipient_ids", .uuidArray, true, none⟩,
        ⟨"command", .bytea, true, none⟩, ⟨"sqlstate", .text, false, none⟩,
        ⟨"correlation_id", .uuid, true, none⟩, ⟨"causation_id", .uuid, false, none⟩,
        ⟨"recorded_at", .timestamptz, true, some .now⟩] ["id"],
    .createUniqueIndex ["command_id"],
    .dropNotNull "source_event_id",
    .addColumn ⟨"reason", .text, true, some (.text "storage_rejected")⟩,
    .dropDefault "reason",
    .addColumn ⟨"actor_kind", .text, false, none⟩,
    .addColumn ⟨"actor_id", .uuid, false, none⟩]

/-- `dead_letters`. -/
def deadLetters : Table ColumnType ColumnDefault := .after deadLetterMigrations

example : deadLetters.unique = [["id"], ["command_id"]] := rfl

example : (deadLetters.columns.filter Column.notNull).map Column.name =
    ["id", "command_id", "recipient_ids", "command", "correlation_id", "recorded_at",
      "reason"] := by decide

/-- `serde_json` on bytes. -/
structure SerdeJson where
  /-- `to_vec`. -/
  toVec : Value → List UInt8
  /-- `from_slice`. -/
  fromSlice : List UInt8 → Option Value

section

variable (json : SerdeJson)

/-- What the INSERT of `record_dead_letter` binds. -/
def Abandoned.bound (id : Uuid) (abandoned : Abandoned) : Cells ColumnValue :=
  [("id", some (.uuid id)), ("command_id", some (.uuid abandoned.trace.commandId)),
    ("source_event_id", abandoned.sourceEventId.map .uuid),
    ("recipient_ids", some (.uuids abandoned.recipientIds)),
    ("command", some (.bytes (json.toVec abandoned.command))),
    ("reason", some (.text abandoned.reason.asStr)), ("sqlstate", abandoned.sqlstate.map .text),
    ("correlation_id", some (.uuid abandoned.trace.correlationId)),
    ("causation_id", abandoned.trace.causationId.map .uuid),
    ("actor_kind", some (.text abandoned.trace.actorKind)),
    ("actor_id", some (.uuid abandoned.trace.actorId))]

/-- A ledger row in the columns of the table. -/
def DeadLetter.cells (letter : DeadLetter) : Cells ColumnValue :=
  [("id", some (.uuid letter.id)), ("command_id", some (.uuid letter.commandId)),
    ("source_event_id", letter.sourceEventId.map .uuid),
    ("recipient_ids", some (.uuids letter.recipientIds)),
    ("command", some (.bytes (json.toVec letter.command))), ("sqlstate", letter.sqlstate.map .text),
    ("correlation_id", some (.uuid letter.correlationId)),
    ("causation_id", letter.causationId.map .uuid),
    ("recorded_at", some (.instant letter.recordedAt)), ("reason", some (.text letter.reason)),
    ("actor_kind", some (.text letter.actorKind)), ("actor_id", some (.uuid letter.actorId))]

/-- The `command` column of a row. -/
def DeadLetter.commandBytes (letter : DeadLetter) : Option (List UInt8) :=
  match (letter.cells json).at_ "command" with
  | some (.bytes bytes) => some bytes
  | _ => none

/-- The INSERT of `record_dead_letter` on the table: the rows it adds. -/
def insertDeadLetter (now : DateTime) (id : Uuid) (ledger : List DeadLetter)
    (abandoned : Abandoned) : Except Refusal (List (Cells ColumnValue)) :=
  deadLetters.insert ColumnValue.hasType ["command_id"] (ledger.map (DeadLetter.cells json))
    (deadLetters.complete (ColumnDefault.evaluate now) (abandoned.bound json id))

end

variable {json : SerdeJson}

/-- The row that the INSERT proposes is the dead letter's. -/
theorem complete_bound (now : DateTime) (id : Uuid) (abandoned : Abandoned) :
    deadLetters.complete (ColumnDefault.evaluate now) (abandoned.bound json id) =
      (DeadLetter.of id now abandoned).cells json := rfl

/-- Texts of the code itself can be stored. -/
theorem storable_asStr (reason : DeadLetterReason) : storable reason.asStr = true := by
  cases reason <;> decide

/-- `actor_kind` can be stored. -/
theorem storable_actorKind (actor : Actor) : storable (actorKind actor) = true := by
  cases actor with
  | human id => exact (by decide : storable "human" = true)
  | service id => exact (by decide : storable "service" = true)

/-- A row whose texts can be stored is admitted. -/
theorem admits_cells {letter : DeadLetter} (reason : storable letter.reason = true)
    (kind : storable letter.actorKind = true)
    (code : ∀ code ∈ letter.sqlstate, storable code = true) :
    deadLetters.Admits ColumnValue.hasType (letter.cells json) := by
  -- One line for each column, in the order of the table.
  refine List.forall_mem_cons.mpr ⟨flaw_value rfl rfl, ?_⟩
  refine List.forall_mem_cons.mpr ⟨flaw_value rfl rfl, ?_⟩
  refine List.forall_mem_cons.mpr ⟨flaw_nullable rfl rfl fun _ _ => rfl, ?_⟩
  refine List.forall_mem_cons.mpr ⟨flaw_value rfl rfl, ?_⟩
  refine List.forall_mem_cons.mpr ⟨flaw_value rfl rfl, ?_⟩
  refine List.forall_mem_cons.mpr
    ⟨flaw_nullable rfl rfl fun given present => code given present, ?_⟩
  refine List.forall_mem_cons.mpr ⟨flaw_value rfl rfl, ?_⟩
  refine List.forall_mem_cons.mpr ⟨flaw_nullable rfl rfl fun _ _ => rfl, ?_⟩
  refine List.forall_mem_cons.mpr ⟨flaw_value rfl rfl, ?_⟩
  refine List.forall_mem_cons.mpr ⟨flaw_value rfl reason, ?_⟩
  refine List.forall_mem_cons.mpr ⟨flaw_value rfl kind, ?_⟩
  exact List.forall_mem_singleton.mpr (flaw_value rfl rfl)

/-- Rows agree on a column of ids where they have the same id in it. -/
theorem agree_column {column : String} {value : DeadLetter → Uuid}
    (holds : ∀ letter : DeadLetter, (letter.cells json).at_ column = some (.uuid (value letter)))
    (letter other : DeadLetter) :
    Table.agree [column] (letter.cells json) (other.cells json) =
      (value other == value letter) := by
  rw [Table.agree, List.all_cons, List.all_nil, Bool.and_true, holds, holds, Option.isSome_some,
    Bool.true_and, Bool.eq_iff_iff, beq_iff_eq, beq_iff_eq]
  constructor
  · intro same
    exact (ColumnValue.uuid.inj (Option.some.inj same)).symm
  · intro same
    rw [same]

/-- The INSERT of an admitted row under a new id is not refused: it adds what
`record_dead_letter` adds. -/
theorem insertDeadLetter_admitted {ledger : List DeadLetter} {abandoned : Abandoned} {id : Uuid}
    {now : DateTime}
    (admits : deadLetters.Admits ColumnValue.hasType ((DeadLetter.of id now abandoned).cells json))
    (new : id ∉ ledger.map DeadLetter.id) :
    insertDeadLetter json now id ledger abandoned =
      .ok ((recordDeadLetter ledger (.of id now abandoned)).map (DeadLetter.cells json)) := by
  have conflict : (ledger.map (DeadLetter.cells json)).any
      (Table.agree ["command_id"] ((DeadLetter.of id now abandoned).cells json)) =
        ledger.any fun row => row.commandId == (DeadLetter.of id now abandoned).commandId := by
    rw [List.any_map]
    exact congrArg ledger.any (funext fun row => agree_column (fun _ => rfl) _ row)
  have free : ∀ key ∈ deadLetters.unique, (ledger.map (DeadLetter.cells json)).any
      (Table.agree key ((DeadLetter.of id now abandoned).cells json)) = true →
      (ledger.map (DeadLetter.cells json)).any
        (Table.agree ["command_id"] ((DeadLetter.of id now abandoned).cells json)) = true := by
    refine List.forall_mem_cons.mpr ⟨?_, List.forall_mem_singleton.mpr fun taken => taken⟩
    intro taken
    rw [List.any_map, List.any_eq_true] at taken
    obtain ⟨row, member, alike⟩ := taken
    have same : row.id = id := by
      rw [Function.comp_apply, agree_column (fun _ => rfl), beq_iff_eq] at alike
      exact alike
    exact absurd (List.mem_map.mpr ⟨row, member, same⟩) new
  rw [insertDeadLetter, complete_bound, Table.insert_admitted admits free, conflict,
    recordDeadLetter]
  split <;> rfl

/-! ## What a call to the ledger says -/

/-- The write of the payload's command failed for good: the SQLSTATE says so. -/
def DeadLetter.StorageRejected (serde : Serde) (payload : Value) (letter : DeadLetter) : Prop :=
  letter.reason = DeadLetterReason.storageRejected.asStr ∧
    ∃ code command, letter.sqlstate = some code ∧
      (['2', '2'] <+: code.toList ∨ ['2', '3'] <+: code.toList) ∧
      validate serde payload = .ok command ∧
      letter.sourceEventId = some command.sourceEventId ∧
      letter.recipientIds = command.recipientIds

/-- The payload is refused, for the reason recorded. -/
def DeadLetter.PayloadRefused (serde : Serde) (payload : Value) (letter : DeadLetter) : Prop :=
  letter.sqlstate = none ∧
    ∃ rejection, validate serde payload = .error rejection ∧
      letter.reason = rejection.reason.asStr

/-- A ledger row tells the frame of an envelope and why it was abandoned. -/
structure DeadLetter.Explains (serde : Serde) (envelope : IntegrationCommand)
    (letter : DeadLetter) : Prop where
  /-- It has the command's identifier. -/
  commandId : letter.commandId = envelope.commandId
  /-- It has the flow's. -/
  correlationId : letter.correlationId = envelope.correlationId
  /-- It has the cause's. -/
  causationId : letter.causationId = envelope.causationId
  /-- It says what the sender is. -/
  actorKind : letter.actorKind = SvcNotifier.actorKind envelope.actor
  /-- It says who that is. -/
  actorId : letter.actorId = envelope.actor.id
  /-- It holds the payload. -/
  command : letter.command = envelope.payload
  /-- PostgreSQL has refused the rows, or `validate` the payload. -/
  why : letter.StorageRejected serde envelope.payload ∨ letter.PayloadRefused serde envelope.payload

/-- Every SQLSTATE of an error is one of `codes`. -/
def SqlxError.Within (codes : String → Prop) (error : SqlxError) : Prop :=
  ∀ code, error = .database (some code) → codes code

/-- The calls of a delivery, with the ledger told only what explains the frame; the database
fails with SQLSTATEs among `codes`. -/
def explainContract (serde : Serde) (codes : String → Prop) (delivered : Delivered) :
    Contract IntakeCall IntakeCall.Reply Unit where
  requires request _ := match request with
    | .recordDeadLetter abandoned => (∀ code ∈ abandoned.sqlstate, codes code) ∧
        ∃ envelope, delivered.payload = .ok envelope ∧
          ∀ id now, (DeadLetter.of id now abandoned).Explains serde envelope
    | _ => True
  allows request _ reply _ := match request, reply with
    | .fanOut _, .error error => error.Within codes
    | _, _ => True

section

variable {serde : Serde} {codes : String → Prop} {delivered : Delivered}

/-- A settlement tells the ledger nothing. -/
theorem apply_explains (outcome : MessageOutcome) :
    Ensures (explainContract serde codes delivered) (fun _ _ => True) (apply outcome) () :=
  ⟨trivial, fun _ _ _ => trivial⟩

/-- `abandon` makes one call to the ledger. -/
theorem abandon_explains {envelope : IntegrationCommand} {abandoned : Abandoned}
    (decoded : delivered.payload = .ok envelope) (within : ∀ code ∈ abandoned.sqlstate, codes code)
    (explains : ∀ id now, (DeadLetter.of id now abandoned).Explains serde envelope) :
    Ensures (explainContract serde codes delivered) (fun _ _ => True) (abandon abandoned) () := by
  refine ⟨⟨within, envelope, decoded, explains⟩, ?_⟩
  intro recorded _ _
  match recorded with
  | .ok (some id) => exact ⟨trivial, fun _ _ _ => trivial⟩
  | .ok none => trivial
  | .error error => exact ⟨trivial, fun _ _ _ => trivial⟩

/-- The SQLSTATE that `triage` records is the one it classified. -/
theorem sqlstateOf_poison {error : SqlxError} (poison : classify error = .poison) :
    ∃ code, sqlstateOf error = some code ∧ error = .database (some code) ∧
      (['2', '2'] <+: code.toList ∨ ['2', '3'] <+: code.toList) := by
  obtain ⟨code, rfl, class_⟩ := (classify_eq_poison error).mp poison
  exact ⟨code, rfl, rfl, class_⟩

/-- `triage` tells the ledger of a write that failed for good. -/
theorem triage_explains (errorText : SqlxError → String) {envelope : IntegrationCommand}
    {command : DeliverNotification} {error : SqlxError}
    (decoded : delivered.payload = .ok envelope)
    (valid : validate serde envelope.payload = .ok command) (within : error.Within codes) :
    Ensures (explainContract serde codes delivered) (fun _ _ => True)
      (triage errorText command envelope.payload (.of envelope) delivered.deliveredCount error)
      () := by
  unfold triage
  cases class_ : classify error with
  | transient => trivial
  | poison =>
    obtain ⟨code, recorded, is, poison⟩ := sqlstateOf_poison class_
    refine abandon_explains decoded ?_ ?_
    · intro given present
      obtain rfl : code = given := Option.some.inj (recorded.symm.trans present)
      exact within code is
    · intro id now
      exact ⟨rfl, rfl, rfl, rfl, rfl, rfl,
        Or.inl ⟨rfl, code, command, recorded, poison, valid, rfl, rfl⟩⟩

/-- What `handle` does before it settles. -/
theorem attempt_explains (errorText : SqlxError → String) {envelope : IntegrationCommand}
    (decoded : delivered.payload = .ok envelope) :
    Ensures (explainContract serde codes delivered) (fun _ _ => True)
      (attempt serde errorText envelope.payload (.of envelope) delivered.deliveredCount) () := by
  unfold attempt
  split
  · rename_i rejection rejected
    refine Ensures.bind ((abandon_explains decoded ?_ ?_).mono fun _ _ _ => trivial)
    · intro code present
      contradiction
    · intro id now
      exact ⟨rfl, rfl, rfl, rfl, rfl, rfl, Or.inr ⟨rfl, rejection, rejected, rfl⟩⟩
  · rename_i command valid
    refine ⟨trivial, ?_⟩
    intro written _ allowed
    cases written with
    | ok count => trivial
    | error error =>
      show Ensures (explainContract serde codes delivered) _ (triage errorText command
        envelope.payload (.of envelope) delivered.deliveredCount error
        >>= fun failure => pure (some failure)) ()
      exact Ensures.bind ((triage_explains errorText decoded valid allowed).mono
        fun _ _ _ => trivial)

/-- Whatever `handle` tells the ledger explains its frame. -/
theorem handle_explains (errorText : SqlxError → String) (delivered : Delivered) :
    Ensures (explainContract serde codes delivered) (fun _ _ => True)
      (handle serde errorText delivered) () := by
  unfold handle
  split
  · refine ⟨trivial, ?_⟩
    intro _ _ _
    exact Ensures.bind ((apply_explains _).mono fun _ _ _ => trivial)
  · rename_i envelope decoded
    refine Ensures.bind ((attempt_explains errorText decoded).mono fun failure _ _ => ?_)
    refine Ensures.bind ((apply_explains _).mono fun _ _ _ => ?_)
    cases failure <;> trivial

end

/-! ## Every ledger row, over runs -/

namespace Intake

variable {serde : Serde} {errorText : SqlxError → String} {codes : String → Prop}
  {intake after : Intake}

/-- A row tells a frame that has been delivered. -/
def Told (serde : Serde) (intake : Intake) (letter : DeadLetter) : Prop :=
  ∃ frame ∈ intake.delivered, ∃ envelope, frame.payload = .ok envelope ∧
    letter.Explains serde envelope

/-- The database fails with SQLSTATEs among `codes`. -/
def FailsWithin (codes : String → Prop) (_ : Intake) (action : Action) : Prop :=
  ∀ replica error, action = .fanOutFails replica error → error.Within codes

/-- The ledger explains itself, and goes on doing so. -/
structure Explaining (serde : Serde) (codes : String → Prop) (intake : Intake) : Prop where
  /-- A delivery under way records only what explains its frame. -/
  busy : ∀ replica delivery, intake.replicas replica = some delivery →
    delivery.frame ∈ intake.delivered ∧
      Ensures (explainContract serde codes delivery.frame) (fun _ _ => True) delivery.program ()
  /-- Every row that was recorded explains a frame. -/
  told : ∀ letter ∈ intake.recorded, intake.Told serde letter ∧ ∀ code ∈ letter.sqlstate, codes code
  /-- The ledger holds nothing else. -/
  ledger : intake.ledger ⊆ intake.recorded
  /-- It has one row for each command at most. -/
  one : (intake.ledger.map DeadLetter.commandId).Nodup

/-- Nothing is on the ledger yet. -/
theorem start_explaining (rows : List Row) : Explaining serde codes (start rows) where
  busy := by simp [start]
  told := by simp [start]
  ledger := by simp [start]
  one := by simp [start]

/-- A delivery begins. -/
theorem Explaining.receive (explaining : Explaining serde codes intake) (replica : Nat)
    (frame : Delivered) :
    Explaining serde codes (intake.receive replica frame (handle serde errorText frame)) := by
  have grows : intake.delivered ⊆ intake.delivered ++ [frame] := List.subset_append_left _ _
  refine ⟨?_, ?_, explaining.ledger, explaining.one⟩
  · intro other delivery found
    by_cases here : other = replica
    · simp only [Intake.receive, here, Function.update_self, Option.some.injEq] at found
      rw [← found]
      exact ⟨List.mem_append_right _ List.mem_cons_self, handle_explains errorText frame⟩
    · simp only [Intake.receive, Function.update_of_ne here] at found
      have old := explaining.busy other delivery found
      exact ⟨grows old.1, old.2⟩
  · intro letter member
    obtain ⟨⟨told, inside, explains⟩, within⟩ := explaining.told letter member
    exact ⟨⟨told, grows inside, explains⟩, within⟩

/-- A call of a delivery returns. -/
theorem Explaining.returns (explaining : Explaining serde codes intake) {replica : Nat}
    {delivery : Delivery} {request : IntakeCall} {next : request.Reply → Handler Verdict}
    (busy : intake.replicas replica = some delivery) (at_ : delivery.program = .call request next)
    (answer : request.Reply)
    (allowed : (explainContract serde codes delivery.frame).allows request () answer ()) :
    Explaining serde codes (intake.reply replica delivery ⟨request, answer⟩ (next answer)) := by
  refine ⟨?_, explaining.told, explaining.ledger, explaining.one⟩
  intro other found is
  by_cases here : other = replica
  · simp only [Intake.reply, here, Function.update_self, Option.some.injEq] at is
    have was := explaining.busy replica delivery busy
    rw [at_] at was
    rw [← is]
    exact ⟨was.1, was.2.2 answer () allowed⟩
  · simp only [Intake.reply, Function.update_of_ne here] at is
    exact explaining.busy other found is

/-- An INSERT adds at most one row, and none where there is one under its command id. -/
theorem commandIds_recordDeadLetter {ledger : List DeadLetter} (letter : DeadLetter)
    (one : (ledger.map DeadLetter.commandId).Nodup) :
    ((ledger ++ recordDeadLetter ledger letter).map DeadLetter.commandId).Nodup := by
  unfold recordDeadLetter
  split
  · rw [List.append_nil]
    exact one
  · rename_i free
    rw [List.map_append, List.nodup_append]
    refine ⟨one, List.nodup_singleton _, ?_⟩
    intro id inside other new same
    obtain ⟨row, member, rfl⟩ := List.mem_map.mp inside
    rw [List.mem_singleton.mp new] at same
    exact free (List.any_eq_true.mpr ⟨row, member, beq_iff_eq.mpr same⟩)

/-- What an INSERT adds is the row it proposes. -/
theorem eq_of_mem_recordDeadLetter {ledger : List DeadLetter} {letter row : DeadLetter}
    (member : row ∈ recordDeadLetter ledger letter) : row = letter := by
  unfold recordDeadLetter at member
  split at member
  · cases member
  · exact List.mem_singleton.mp member

/-- What the ledger is told, where a replica has come to tell it. -/
theorem Explaining.asked (explaining : Explaining serde codes intake) {replica : Nat}
    {delivery : Delivery} {abandoned : Abandoned}
    {next : Except SqlxError (Option Uuid) → Handler Verdict}
    (busy : intake.replicas replica = some delivery)
    (at_ : delivery.program = .call (.recordDeadLetter abandoned) next) (id : Uuid)
    (now : DateTime) :
    intake.Told serde (.of id now abandoned) ∧ ∀ code ∈ abandoned.sqlstate, codes code := by
  obtain ⟨framed, goes⟩ := explaining.busy replica delivery busy
  rw [at_] at goes
  obtain ⟨within, envelope, decoded, explains⟩ := goes.1
  exact ⟨⟨delivery.frame, framed, envelope, decoded, explains id now⟩, within⟩

/-- A ledger write takes effect. -/
theorem Explaining.record (explaining : Explaining serde codes intake) {letter : DeadLetter}
    (told : intake.Told serde letter) (within : ∀ code ∈ letter.sqlstate, codes code) :
    Explaining serde codes (intake.record letter) := by
  refine ⟨explaining.busy, ?_, ?_, commandIds_recordDeadLetter letter explaining.one⟩
  · intro row member
    rcases List.mem_append.mp member with old | new
    · exact explaining.told row old
    · rw [eq_of_mem_recordDeadLetter new]
      exact ⟨told, within⟩
  · intro row member
    rcases List.mem_append.mp member with old | new
    · exact List.mem_append_left _ (explaining.ledger old)
    · exact List.mem_append_right _ new

/-- A replica becomes idle. -/
theorem Explaining.release (explaining : Explaining serde codes intake) (replica : Nat)
    (ended : List Nat) : Explaining serde codes (intake.release replica ended) := by
  refine ⟨?_, explaining.told, explaining.ledger, explaining.one⟩
  intro other delivery found
  by_cases here : other = replica
  · simp [Intake.release, here] at found
  · simp only [Intake.release, Function.update_of_ne here] at found
    exact explaining.busy other delivery found

/-- Every step keeps the ledger explaining itself. -/
theorem explaining_step {action : Action} (explaining : Explaining serde codes intake)
    (fails : FailsWithin codes intake action)
    (stepped : step serde errorText intake action = some after) :
    Explaining serde codes after := by
  cases moves_of_step stepped with
  | deliver idle => exact explaining.receive _ _
  | @openFanOut replica sid nowV7 now delivery command next store busy at_ alone begun =>
    refine ⟨?_, explaining.told, explaining.ledger, explaining.one⟩
    intro other found is
    by_cases here : other = replica
    · simp only [Intake.openSession, here, Function.update_self, Option.some.injEq] at is
      rw [← is]
      exact explaining.busy replica delivery busy
    · simp only [Intake.openSession, Function.update_of_ne here] at is
      exact explaining.busy other found is
  | fanOutReturns busy at_ waiting committed => exact explaining.returns busy at_ _ trivial
  | @fanOutFails replica error delivery command next busy at_ =>
    exact explaining.returns busy at_ (.error error) (fails replica error rfl)
  | @record replica id now delivery abandoned next recorded busy at_ answered =>
    obtain ⟨told, within⟩ := explaining.asked busy at_ id now
    exact (explaining.record told within).returns busy at_ _ trivial
  | @recordLost replica id now error delivery abandoned next busy at_ =>
    obtain ⟨told, within⟩ := explaining.asked busy at_ id now
    exact (explaining.record told within).returns busy at_ _ trivial
  | recordFails busy at_ => exact explaining.returns busy at_ _ trivial
  | settle busy at_ => exact explaining.returns busy at_ _ trivial
  | count busy at_ => exact explaining.returns busy at_ _ trivial
  | finish busy at_ => exact explaining.release _ _
  | crash => exact explaining.release _ _
  | purge =>
    refine ⟨explaining.busy, explaining.told, ?_, ?_⟩
    · intro row member
      exact explaining.ledger (List.mem_of_mem_filter member)
    · exact (List.filter_sublist.map DeadLetter.commandId).nodup explaining.one
  | database foreign moved =>
    exact ⟨explaining.busy, explaining.told, explaining.ledger, explaining.one⟩

/-- A run in which the database fails with SQLSTATEs among `codes`. -/
theorem explaining_of_run {guard : Intake → Action → Prop} {rows : List Row}
    (run : Reaches (step serde errorText) guard (start rows) intake)
    (fails : ∀ intake action, guard intake action → FailsWithin codes intake action) :
    Explaining serde codes intake :=
  run.invariant
    (fun _ _ _ explaining met stepped => explaining_step explaining (fails _ _ met) stepped)
    (start_explaining rows)

/-! ## No row is refused -/

/-- The id that a step mints for a ledger row. -/
def Action.mints : Action → Option Uuid
  | .record _ id _ => some id
  | .recordLost _ id _ _ => some id
  | _ => none

/-- What a run may count on: a minted id is in no row of the ledger, and PostgreSQL reports
SQLSTATEs that it can store. -/
def Promised (intake : Intake) (action : Action) : Prop :=
  FailsWithin (storable · = true) intake action ∧
    ∀ id ∈ action.mints, id ∉ intake.ledger.map DeadLetter.id

/-- A row that explains its frame is admitted. -/
theorem Told.admits {json : SerdeJson} {letter : DeadLetter} (told : intake.Told serde letter)
    (codes : ∀ code ∈ letter.sqlstate, storable code = true) :
    deadLetters.Admits ColumnValue.hasType (letter.cells json) := by
  obtain ⟨frame, delivered, envelope, decoded, explains⟩ := told
  have reason : storable letter.reason = true := by
    rcases explains.why with ⟨same, -⟩ | ⟨-, rejection, -, same⟩
    · rw [same]
      exact storable_asStr _
    · rw [same]
      exact storable_asStr _
  have kind : storable letter.actorKind = true := by
    rw [explains.actorKind]
    exact storable_actorKind _
  exact admits_cells reason kind codes

/-- A replica that has come to tell the ledger is not refused. -/
theorem Explaining.accepted {json : SerdeJson}
    (explaining : Explaining serde (storable · = true) intake)
    {replica : Nat} {delivery : Delivery} {abandoned : Abandoned}
    {next : Except SqlxError (Option Uuid) → Handler Verdict}
    (busy : intake.replicas replica = some delivery)
    (at_ : delivery.program = .call (.recordDeadLetter abandoned) next) {id : Uuid}
    (now : DateTime) (new : id ∉ intake.ledger.map DeadLetter.id) :
    insertDeadLetter json now id intake.ledger abandoned =
      .ok ((recordDeadLetter intake.ledger (.of id now abandoned)).map
        (DeadLetter.cells json)) := by
  obtain ⟨told, within⟩ := explaining.asked busy at_ id now
  exact insertDeadLetter_admitted (told.admits within) new

/-- The constraints of the table hold of the ledger. -/
def Constrained (json : SerdeJson) (intake : Intake) : Prop :=
  deadLetters.Satisfied ColumnValue.hasType (intake.ledger.map (DeadLetter.cells json))

/-- A ledger write that is not refused keeps the constraints. -/
theorem Constrained.record {json : SerdeJson} (constrained : intake.Constrained json)
    {abandoned : Abandoned} {id : Uuid} {now : DateTime}
    (accepted : insertDeadLetter json now id intake.ledger abandoned =
      .ok ((recordDeadLetter intake.ledger (.of id now abandoned)).map (DeadLetter.cells json))) :
    (intake.record (.of id now abandoned)).Constrained json := by
  have kept := Table.insert_keeps constrained accepted
  rw [← List.map_append] at kept
  exact kept

/-- Every step keeps the constraints. -/
theorem constrained_step {json : SerdeJson} {action : Action}
    (explaining : Explaining serde (storable · = true) intake)
    (constrained : intake.Constrained json)
    (promised : Promised intake action)
    (stepped : step serde errorText intake action = some after) : after.Constrained json := by
  cases moves_of_step stepped with
  | @record replica id now delivery abandoned next recorded busy at_ answered =>
    exact constrained.record (explaining.accepted busy at_ now (promised.2 id rfl))
  | @recordLost replica id now error delivery abandoned next busy at_ =>
    exact constrained.record (explaining.accepted busy at_ now (promised.2 id rfl))
  | purge => exact constrained.sublist (List.filter_sublist.map (DeadLetter.cells json))
  | _ => exact constrained

/-- The constraints hold after every run that can count on its promises. -/
theorem constrained_of_run (json : SerdeJson) {rows : List Row}
    (run : Reaches (step serde errorText) Promised (start rows) intake) :
    Explaining serde (storable · = true) intake ∧ intake.Constrained json := by
  have keeps : ∀ (s : Intake) (a : Action) (t : Intake),
      Explaining serde (storable · = true) s ∧ s.Constrained json → Promised s a →
      step serde errorText s a = some t → Explaining serde (storable · = true) t ∧
        t.Constrained json := by
    intro s a t held promised stepped
    exact ⟨explaining_step held.1 promised.1 stepped,
      constrained_step held.1 held.2 promised stepped⟩
  have empty : (start rows).Constrained json := by
    refine ⟨?_, fun _ _ => List.Pairwise.nil⟩
    intro cells member
    cases member
  exact run.invariant keeps ⟨start_explaining rows, empty⟩

end Intake

/-- Every ledger row explains its own abandonment, whichever replica wrote it in whatever run: it
carries the ids of a delivered frame and the bytes of its payload, and either its SQLSTATE is of
a permanently invalid class and it names what the payload validates as, or it has no SQLSTATE and
its reason is the one the payload is refused for. No two rows are of one command. Where minted
ids are new, the ledger meets every constraint of the table, and the table refuses no row that a
replica comes to write. -/
theorem ledger_rows_explain_themselves (serde : Serde) (json : SerdeJson)
    (errorText : SqlxError → String) (table : Notifications) (intake : Intake)
    (reached : Intake.Reachable serde errorText table intake)
    (inverts : ∀ frame ∈ intake.delivered, ∀ envelope, frame.payload = .ok envelope →
      json.fromSlice (json.toVec envelope.payload) = some envelope.payload) :
    (∀ letter ∈ intake.recorded, ∃ frame ∈ intake.delivered, ∃ envelope,
      frame.payload = .ok envelope ∧ letter.Explains serde envelope ∧
      (letter.commandBytes json).bind json.fromSlice = some envelope.payload) ∧
    intake.ledger ⊆ intake.recorded ∧ (intake.ledger.map DeadLetter.commandId).Nodup ∧
    (Reaches (Intake.step serde errorText) Intake.Promised (Intake.start table.rows) intake →
      deadLetters.Satisfied ColumnValue.hasType (intake.ledger.map (DeadLetter.cells json)) ∧
      ∀ replica delivery abandoned next id now, intake.replicas replica = some delivery →
        delivery.program = .call (.recordDeadLetter abandoned) next →
        id ∉ intake.ledger.map DeadLetter.id →
        insertDeadLetter json now id intake.ledger abandoned =
          .ok ((recordDeadLetter intake.ledger (.of id now abandoned)).map
            (DeadLetter.cells json))) := by
  have explaining : Intake.Explaining serde (fun _ => True) intake :=
    Intake.explaining_of_run reached fun _ _ _ _ _ _ _ _ => trivial
  refine ⟨?_, explaining.ledger, explaining.one, ?_⟩
  · intro letter member
    obtain ⟨⟨frame, delivered, envelope, decoded, explains⟩, -⟩ := explaining.told letter member
    refine ⟨frame, delivered, envelope, decoded, explains, ?_⟩
    have bytes : letter.commandBytes json = some (json.toVec letter.command) := rfl
    rw [bytes, explains.command]
    exact inverts frame delivered envelope decoded
  · intro run
    obtain ⟨explaining, constrained⟩ := Intake.constrained_of_run json run
    refine ⟨constrained, ?_⟩
    intro replica delivery abandoned next id now busy at_ new
    exact explaining.accepted busy at_ now new

/-- The bytes of `sampleKeyed`. -/
def sampleKeyedBytes : List UInt8 :=
  ("\x7b\"link\":\"https://evil.com\",\"payload\":null," ++
    "\"recipient_ids\":[\"00000000-0000-0000-0000-000000000002\"]," ++
    "\"source_event_id\":\"00000000-0000-0000-0000-000000000001\"," ++
    "\"template\":\"welcome\"\x7d").toUTF8.data.toList

/-- `serde_json` on `sampleKeyed`. -/
def sampleJson : SerdeJson where
  toVec _ := sampleKeyedBytes
  fromSlice bytes := if bytes = sampleKeyedBytes then some sampleKeyed else none

/-- The frame that carries `sampleKeyed`, whose link is refused. -/
def sampleKeyedFrame : Delivered :=
  { payload := .ok (sampleCarrier sampleKeyed), deliveredCount := none }

/-- The intake once the frame is on the ledger. -/
def sampleLedger : Intake :=
  (play sampleStep (Intake.start []) [.deliver 0 sampleKeyedFrame, .record 0 (sampleId 7) ⟨0⟩]).get
    (by decide)

/-- The frame is on the ledger, in a row that explains it and that the table admits. -/
theorem ledger_rows_explain_themselves_sample :
    (∀ letter ∈ sampleLedger.recorded, ∃ frame ∈ sampleLedger.delivered, ∃ envelope,
      frame.payload = .ok envelope ∧ letter.Explains sampleSerde envelope ∧
      (letter.commandBytes sampleJson).bind sampleJson.fromSlice = some envelope.payload) ∧
    deadLetters.Satisfied ColumnValue.hasType
      (sampleLedger.ledger.map (DeadLetter.cells sampleJson)) ∧
    sampleLedger.ledger.map DeadLetter.commandId = [sampleId 4] := by
  have reached : Intake.Reachable sampleSerde (fun _ => "") .empty sampleLedger :=
    reaches_of_play (Option.some_get _).symm
  have inverts : ∀ frame ∈ sampleLedger.delivered, ∀ envelope, frame.payload = .ok envelope →
      sampleJson.fromSlice (sampleJson.toVec envelope.payload) = some envelope.payload := by
    intro frame member envelope decoded
    obtain rfl : frame = sampleKeyedFrame := List.mem_singleton.mp member
    obtain rfl : sampleCarrier sampleKeyed = envelope := Except.ok.inj decoded
    simp only [sampleJson, if_true]
    rfl
  have promised : Reaches (Intake.step sampleSerde fun _ => "") Intake.Promised
      (Intake.start []) sampleLedger := by
    refine ⟨[.deliver 0 sampleKeyedFrame, .record 0 (sampleId 7) ⟨0⟩], ?_⟩
    refine .next ⟨?_, ?_⟩ rfl (.next ⟨?_, ?_⟩ (Option.some_get _).symm (.refl _))
    · intro replica error same
      contradiction
    · intro id minted
      contradiction
    · intro replica error same
      contradiction
    · intro id minted
      exact List.not_mem_nil
  obtain ⟨explained, -, -, constrained⟩ := ledger_rows_explain_themselves sampleSerde sampleJson
    (fun _ => "") .empty sampleLedger reached inverts
  exact ⟨explained, (constrained promised).1, by decide⟩

end SvcNotifier
