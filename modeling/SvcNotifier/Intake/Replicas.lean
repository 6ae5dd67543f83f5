import SvcNotifier.Intake.Handle
import SvcNotifier.Commits

/-!
# The intake on the database

Any number of replicas consume one durable. Each handles one frame at a time; the broker may
deliver any frame to any idle replica, any number of times. A fan-out opens a session of the
database, which interleaves with every other session and whose reply may be lost whatever
became of it; a ledger write is one statement that commits by itself, takes effect or not, and
may lose its reply; a settlement may be lost. A replica may crash at any point, and a session
it leaves behind may still commit or be rolled back. The retention pass may run at any point.
-/

namespace SvcNotifier

open Library Program

/-- A row of the `dead_letters` table; `command` is the payload it is the bytes of. -/
structure DeadLetter where
  /-- The primary key. -/
  id : Uuid
  /-- The identifier of the command, of which there is one row. -/
  commandId : Uuid
  /-- The source event, where it could be read. -/
  sourceEventId : Option Uuid
  /-- The recipients that could be read. -/
  recipientIds : List Uuid
  /-- The payload as it was delivered. -/
  command : Value
  /-- Why the command was abandoned. -/
  reason : String
  /-- The code PostgreSQL gave, where it did. -/
  sqlstate : Option String
  /-- The identifier of the flow. -/
  correlationId : Uuid
  /-- The identifier of the cause. -/
  causationId : Option Uuid
  /-- Whether a person or a service sent it. -/
  actorKind : String
  /-- Who that was. -/
  actorId : Uuid
  /-- The start of the transaction that recorded it. -/
  recordedAt : DateTime

/-- The row `record_dead_letter` proposes. -/
def DeadLetter.of (id : Uuid) (recordedAt : DateTime) (abandoned : Abandoned) : DeadLetter :=
  { id := id, commandId := abandoned.trace.commandId, sourceEventId := abandoned.sourceEventId,
    recipientIds := abandoned.recipientIds, command := abandoned.command,
    reason := abandoned.reason.asStr, sqlstate := abandoned.sqlstate,
    correlationId := abandoned.trace.correlationId, causationId := abandoned.trace.causationId,
    actorKind := abandoned.trace.actorKind, actorId := abandoned.trace.actorId,
    recordedAt := recordedAt.timestamptz }

/-- The rows that `INSERT … ON CONFLICT (command_id) DO NOTHING` adds. -/
def recordDeadLetter (ledger : List DeadLetter) (letter : DeadLetter) : List DeadLetter :=
  if ledger.any fun row => row.commandId == letter.commandId then [] else [letter]

/-- `DEAD_LETTER_RETENTION_DAYS`. -/
def deadLetterRetentionDays : Int := 90

/-- `delete_expired_dead_letters`. -/
def deleteExpiredDeadLetters (now : DateTime) (ledger : List DeadLetter) : List DeadLetter :=
  ledger.filter fun row =>
    !decide (row.recordedAt.nanos < now.nanos - deadLetterRetentionDays * 86400000000000)

/-- A delivery in progress. -/
structure Delivery where
  /-- Its place among all deliveries. -/
  number : Nat
  /-- What was delivered. -/
  frame : Delivered
  /-- What is left of `handle`. -/
  program : Handler Verdict
  /-- The session of the fan-out it waits for. -/
  session : Option Nat

/-- The database, the ledger and the replicas. -/
structure Intake where
  /-- The notifications and their transactions. -/
  store : Store
  /-- The rows of `dead_letters`. -/
  ledger : List DeadLetter
  /-- Every row ever committed to the ledger. -/
  recorded : List DeadLetter
  /-- Every frame delivered, in order. -/
  delivered : List Delivered
  /-- What each replica is at, if it is at anything. -/
  replicas : Nat → Option Delivery
  /-- Every call that has returned, with the number of its delivery. -/
  trace : List (Nat × Event)
  /-- The sessions of fan-outs, each with the number of its delivery. -/
  fanOuts : List (Nat × Nat)
  /-- The deliveries that have run to their end. -/
  ended : List Nat

namespace Intake

/-- Nothing has been delivered yet. -/
def start (rows : List Row) : Intake :=
  { store := Store.start rows, ledger := [], recorded := [], delivered := [],
    replicas := fun _ => none, trace := [], fanOuts := [], ended := [] }

/-- The calls of a delivery that have returned, oldest first. -/
def eventsOf (intake : Intake) (number : Nat) : List Event :=
  (intake.trace.filter fun entry => entry.1 == number).map Prod.snd

/-- A replica takes up a delivery of a frame. -/
def receive (intake : Intake) (replica : Nat) (frame : Delivered) (program : Handler Verdict) :
    Intake :=
  { intake with
    delivered := intake.delivered ++ [frame]
    replicas := Function.update intake.replicas replica (some
      { number := intake.delivered.length, frame := frame, program := program,
        session := none }) }

/-- The fan-out of a replica's delivery has opened a session. -/
def openSession (intake : Intake) (replica : Nat) (delivery : Delivery) (sid : Nat)
    (store : Store) : Intake :=
  { intake with
    store := store
    replicas := Function.update intake.replicas replica (some { delivery with session := some sid })
    fanOuts := intake.fanOuts ++ [(sid, delivery.number)] }

/-- A call of a replica's delivery returns. -/
def reply (intake : Intake) (replica : Nat) (delivery : Delivery) (event : Event)
    (program : Handler Verdict) : Intake :=
  { intake with
    replicas := Function.update intake.replicas replica
      (some { delivery with program := program, session := none })
    trace := intake.trace ++ [(delivery.number, event)] }

/-- A replica becomes idle. -/
def release (intake : Intake) (replica : Nat) (ended : List Nat) : Intake :=
  { intake with
    replicas := Function.update intake.replicas replica none
    ended := intake.ended ++ ended }

/-- A ledger write takes effect. -/
def record (intake : Intake) (letter : DeadLetter) : Intake :=
  { intake with
    ledger := intake.ledger ++ recordDeadLetter intake.ledger letter
    recorded := intake.recorded ++ recordDeadLetter intake.ledger letter }

/-- What happens next. -/
inductive Action where
  /-- The broker delivers a frame to an idle replica. -/
  | deliver (replica : Nat) (frame : Delivered)
  /-- A fan-out opens its transaction. -/
  | openFanOut (replica sid : Nat) (nowV7 : Nat → Uuid) (now : DateTime)
  /-- A fan-out that has committed returns. -/
  | fanOutReturns (replica : Nat)
  /-- A fan-out returns an error, with its transaction unopened, open, rolled back or committed. -/
  | fanOutFails (replica : Nat) (error : SqlxError)
  /-- A ledger write takes effect and returns. -/
  | record (replica : Nat) (id : Uuid) (now : DateTime)
  /-- A ledger write takes effect and its reply is lost. -/
  | recordLost (replica : Nat) (id : Uuid) (now : DateTime) (error : SqlxError)
  /-- A ledger write fails without effect. -/
  | recordFails (replica : Nat) (error : SqlxError)
  /-- A settlement reaches the broker, or is lost. -/
  | settle (replica : Nat) (landed : Bool)
  /-- A counter is incremented. -/
  | count (replica : Nat)
  /-- A delivery has run to its end. -/
  | finish (replica : Nat)
  /-- A replica crashes, and restarts idle. -/
  | crash (replica : Nat)
  /-- The retention pass deletes what has expired. -/
  | purge (now : DateTime)
  /-- A session of the database takes a step; fan-outs are opened by replicas only. -/
  | database (action : Store.Action)

/-- The action opens a fan-out. -/
def opensFanOut : Store.Action → Bool
  | .begin _ (.fanOut ..) _ => true
  | _ => false

variable (serde : Serde) (errorText : SqlxError → String)

/-- One step of the intake. -/
def step (intake : Intake) : Action → Option Intake
  | .deliver replica frame => match intake.replicas replica with
    | some _ => none
    | none => some (intake.receive replica frame (handle serde errorText frame))
  | .openFanOut replica sid nowV7 now => match intake.replicas replica with
    | none => none
    | some delivery => match delivery.program, delivery.session with
      | .call (.fanOut command) _, none =>
        match intake.store.step (.begin sid (.fanOut nowV7 command) now) with
        | some store => some (intake.openSession replica delivery sid store)
        | none => none
      | _, _ => none
  | .fanOutReturns replica => match intake.replicas replica with
    | none => none
    | some delivery => match delivery.program, delivery.session with
      | .call (.fanOut command) next, some sid => match intake.store.outcomes sid with
        | some (_, .committed (.ok (.written written))) => some
          (intake.reply replica delivery ⟨.fanOut command, .ok written⟩ (next (.ok written)))
        | _ => none
      | _, _ => none
  | .fanOutFails replica error => match intake.replicas replica with
    | none => none
    | some delivery => match delivery.program with
      | .call (.fanOut command) next => some
        (intake.reply replica delivery ⟨.fanOut command, .error error⟩ (next (.error error)))
      | _ => none
  | .record replica id now => match intake.replicas replica with
    | none => none
    | some delivery => match delivery.program with
      | .call (.recordDeadLetter abandoned) next =>
        let letter := DeadLetter.of id now abandoned
        let recorded := (recordDeadLetter intake.ledger letter).head?.map DeadLetter.id
        some ((intake.record letter).reply replica delivery
          ⟨.recordDeadLetter abandoned, .ok recorded⟩ (next (.ok recorded)))
      | _ => none
  | .recordLost replica id now error => match intake.replicas replica with
    | none => none
    | some delivery => match delivery.program with
      | .call (.recordDeadLetter abandoned) next => some
        ((intake.record (.of id now abandoned)).reply replica delivery
          ⟨.recordDeadLetter abandoned, .error error⟩ (next (.error error)))
      | _ => none
  | .recordFails replica error => match intake.replicas replica with
    | none => none
    | some delivery => match delivery.program with
      | .call (.recordDeadLetter abandoned) next => some
        (intake.reply replica delivery ⟨.recordDeadLetter abandoned, .error error⟩
          (next (.error error)))
      | _ => none
  | .settle replica landed => match intake.replicas replica with
    | none => none
    | some delivery => match delivery.program with
      | .call (.settle settlement) next => some
        (intake.reply replica delivery ⟨.settle settlement, landed⟩ (next landed))
      | _ => none
  | .count replica => match intake.replicas replica with
    | none => none
    | some delivery => match delivery.program with
      | .call (.count counter) next => some
        (intake.reply replica delivery ⟨.count counter, ()⟩ (next ()))
      | _ => none
  | .finish replica => match intake.replicas replica with
    | none => none
    | some delivery => match delivery.program with
      | .done _ => some (intake.release replica [delivery.number])
      | _ => none
  | .crash replica => some (intake.release replica [])
  | .purge now => some { intake with ledger := deleteExpiredDeadLetters now intake.ledger }
  | .database action =>
    if opensFanOut action then none
    else match intake.store.step action with
      | some store => some { intake with store := store }
      | none => none

/-- Everything one step can do, with what it was found doing. -/
inductive Moves (intake : Intake) : Action → Intake → Prop where
  /-- An idle replica takes a frame. -/
  | deliver {replica : Nat} {frame : Delivered} (idle : intake.replicas replica = none) :
      Moves intake (.deliver replica frame)
        (intake.receive replica frame (handle serde errorText frame))
  /-- A fan-out that was called opens its transaction. -/
  | openFanOut {replica sid : Nat} {nowV7 : Nat → Uuid} {now : DateTime} {delivery : Delivery}
      {command : DeliverNotification} {next : Except SqlxError Nat → Handler Verdict}
      {store : Store} (busy : intake.replicas replica = some delivery)
      (at_ : delivery.program = .call (.fanOut command) next) (alone : delivery.session = none)
      (begun : intake.store.step (.begin sid (.fanOut nowV7 command) now) = some store) :
      Moves intake (.openFanOut replica sid nowV7 now)
        (intake.openSession replica delivery sid store)
  /-- Its transaction has committed, and the reply arrives. -/
  | fanOutReturns {replica sid : Nat} {delivery : Delivery} {command : DeliverNotification}
      {next : Except SqlxError Nat → Handler Verdict} {operation : Operation} {written : Nat}
      (busy : intake.replicas replica = some delivery)
      (at_ : delivery.program = .call (.fanOut command) next)
      (waiting : delivery.session = some sid)
      (committed : intake.store.outcomes sid =
        some (operation, .committed (.ok (.written written)))) :
      Moves intake (.fanOutReturns replica)
        (intake.reply replica delivery ⟨.fanOut command, .ok written⟩ (next (.ok written)))
  /-- It fails, or its reply is lost. -/
  | fanOutFails {replica : Nat} {error : SqlxError} {delivery : Delivery}
      {command : DeliverNotification} {next : Except SqlxError Nat → Handler Verdict}
      (busy : intake.replicas replica = some delivery)
      (at_ : delivery.program = .call (.fanOut command) next) :
      Moves intake (.fanOutFails replica error)
        (intake.reply replica delivery ⟨.fanOut command, .error error⟩ (next (.error error)))
  /-- The ledger is written, and answers. -/
  | record {replica : Nat} {id : Uuid} {now : DateTime} {delivery : Delivery}
      {abandoned : Abandoned} {next : Except SqlxError (Option Uuid) → Handler Verdict}
      {recorded : Option Uuid} (busy : intake.replicas replica = some delivery)
      (at_ : delivery.program = .call (.recordDeadLetter abandoned) next)
      (answered : recorded =
        (recordDeadLetter intake.ledger (.of id now abandoned)).head?.map DeadLetter.id) :
      Moves intake (.record replica id now)
        ((intake.record (.of id now abandoned)).reply replica delivery
          ⟨.recordDeadLetter abandoned, .ok recorded⟩ (next (.ok recorded)))
  /-- The ledger is written, and its answer is lost. -/
  | recordLost {replica : Nat} {id : Uuid} {now : DateTime} {error : SqlxError}
      {delivery : Delivery} {abandoned : Abandoned}
      {next : Except SqlxError (Option Uuid) → Handler Verdict}
      (busy : intake.replicas replica = some delivery)
      (at_ : delivery.program = .call (.recordDeadLetter abandoned) next) :
      Moves intake (.recordLost replica id now error)
        ((intake.record (.of id now abandoned)).reply replica delivery
          ⟨.recordDeadLetter abandoned, .error error⟩ (next (.error error)))
  /-- The ledger is not written. -/
  | recordFails {replica : Nat} {error : SqlxError} {delivery : Delivery} {abandoned : Abandoned}
      {next : Except SqlxError (Option Uuid) → Handler Verdict}
      (busy : intake.replicas replica = some delivery)
      (at_ : delivery.program = .call (.recordDeadLetter abandoned) next) :
      Moves intake (.recordFails replica error)
        (intake.reply replica delivery ⟨.recordDeadLetter abandoned, .error error⟩
          (next (.error error)))
  /-- The settlement is sent, and arrives or does not. -/
  | settle {replica : Nat} {landed : Bool} {delivery : Delivery} {settlement : Settlement}
      {next : Bool → Handler Verdict} (busy : intake.replicas replica = some delivery)
      (at_ : delivery.program = .call (.settle settlement) next) :
      Moves intake (.settle replica landed)
        (intake.reply replica delivery ⟨.settle settlement, landed⟩ (next landed))
  /-- A counter is incremented. -/
  | count {replica : Nat} {delivery : Delivery} {counter : Counter}
      {next : Unit → Handler Verdict} (busy : intake.replicas replica = some delivery)
      (at_ : delivery.program = .call (.count counter) next) :
      Moves intake (.count replica)
        (intake.reply replica delivery ⟨.count counter, ()⟩ (next ()))
  /-- The delivery has run to its end. -/
  | finish {replica : Nat} {delivery : Delivery} {verdict : Verdict}
      (busy : intake.replicas replica = some delivery) (at_ : delivery.program = .done verdict) :
      Moves intake (.finish replica) (intake.release replica [delivery.number])
  /-- The replica forgets what it was at. -/
  | crash {replica : Nat} : Moves intake (.crash replica) (intake.release replica [])
  /-- A retention pass takes effect. -/
  | purge {now : DateTime} : Moves intake (.purge now)
      { intake with ledger := deleteExpiredDeadLetters now intake.ledger }
  /-- Any other step of the database. -/
  | database {action : Store.Action} {store : Store} (foreign : opensFanOut action = false)
      (stepped : intake.store.step action = some store) :
      Moves intake (.database action) { intake with store := store }

variable {serde errorText}

/-- A step does one of these things. -/
theorem moves_of_step {intake after : Intake} {action : Action}
    (stepped : step serde errorText intake action = some after) :
    Moves serde errorText intake action after := by
  cases action with
  | deliver replica frame =>
    simp only [step] at stepped
    split at stepped
    · contradiction
    · rename_i idle
      obtain rfl := Option.some.inj stepped
      exact .deliver idle
  | openFanOut replica sid nowV7 now =>
    simp only [step] at stepped
    split at stepped
    · contradiction
    · rename_i delivery busy
      split at stepped
      · rename_i command next at_ alone
        split at stepped
        · rename_i store begun
          obtain rfl := Option.some.inj stepped
          exact .openFanOut busy at_ alone begun
        · contradiction
      · contradiction
  | fanOutReturns replica =>
    simp only [step] at stepped
    split at stepped
    · contradiction
    · rename_i delivery busy
      split at stepped
      · rename_i command next sid at_ waiting
        split at stepped
        · rename_i operation written committed
          obtain rfl := Option.some.inj stepped
          exact .fanOutReturns busy at_ waiting committed
        · contradiction
      · contradiction
  | fanOutFails replica error =>
    simp only [step] at stepped
    split at stepped
    · contradiction
    · rename_i delivery busy
      split at stepped
      · rename_i command next at_
        obtain rfl := Option.some.inj stepped
        exact .fanOutFails busy at_
      · contradiction
  | record replica id now =>
    simp only [step] at stepped
    split at stepped
    · contradiction
    · rename_i delivery busy
      split at stepped
      · rename_i abandoned next at_
        obtain rfl := Option.some.inj stepped
        exact .record busy at_ rfl
      · contradiction
  | recordLost replica id now error =>
    simp only [step] at stepped
    split at stepped
    · contradiction
    · rename_i delivery busy
      split at stepped
      · rename_i abandoned next at_
        obtain rfl := Option.some.inj stepped
        exact .recordLost busy at_
      · contradiction
  | recordFails replica error =>
    simp only [step] at stepped
    split at stepped
    · contradiction
    · rename_i delivery busy
      split at stepped
      · rename_i abandoned next at_
        obtain rfl := Option.some.inj stepped
        exact .recordFails busy at_
      · contradiction
  | settle replica landed =>
    simp only [step] at stepped
    split at stepped
    · contradiction
    · rename_i delivery busy
      split at stepped
      · rename_i settlement next at_
        obtain rfl := Option.some.inj stepped
        exact .settle busy at_
      · contradiction
  | count replica =>
    simp only [step] at stepped
    split at stepped
    · contradiction
    · rename_i delivery busy
      split at stepped
      · rename_i counter next at_
        obtain rfl := Option.some.inj stepped
        exact .count busy at_
      · contradiction
  | finish replica =>
    simp only [step] at stepped
    split at stepped
    · contradiction
    · rename_i delivery busy
      split at stepped
      · rename_i verdict at_
        obtain rfl := Option.some.inj stepped
        exact .finish busy at_
      · contradiction
  | crash replica =>
    obtain rfl := Option.some.inj stepped
    exact .crash
  | purge now =>
    obtain rfl := Option.some.inj stepped
    exact .purge
  | database action =>
    simp only [step] at stepped
    split at stepped
    · contradiction
    · rename_i foreign
      split at stepped
      · rename_i store moved
        obtain rfl := Option.some.inj stepped
        exact .database (Bool.eq_false_iff.mpr foreign) moved
      · contradiction

end Intake

end SvcNotifier
