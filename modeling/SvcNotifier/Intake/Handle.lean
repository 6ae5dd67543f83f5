import SvcNotifier.Intake.Validate
import SvcNotifier.Graphql

/-!
# `handle`, one delivery of a frame

What the intake does with a frame is a program over the calls that leave the process: the
fan-out, the write to the ledger, the settlement and the counters. Which call fails, and how,
is up to the reply. A contract on the calls says in which order and for which reason they may
be made; `receive_ensures` is the one place where the text of `handle` is followed.
-/

namespace SvcNotifier

open Library Program

/-- `FailureClass`. -/
inductive FailureClass where
  /-- It may go well another time. -/
  | transient
  /-- It never will. -/
  | poison
  deriving DecidableEq, Repr

/-- `Verdict`. -/
inductive Verdict where
  /-- The rows are there. -/
  | written
  /-- The attempt has failed. -/
  | failed (class_ : FailureClass)
  /-- There was no envelope to attempt. -/
  | notAttempted
  deriving DecidableEq, Repr

/-- `Actor`, as far as the ledger records it. -/
inductive Actor where
  /-- A person. -/
  | human (id : Uuid)
  /-- A service. -/
  | service (id : Uuid)
  deriving DecidableEq, Repr

/-- `actor_kind`. -/
def actorKind : Actor → String
  | .human _ => "human"
  | .service _ => "service"

/-- `Actor::id`. -/
def Actor.id : Actor → Uuid
  | .human id => id
  | .service id => id

/-- `IntegrationCommand<Value>`, with the metadata the ledger records. -/
structure IntegrationCommand where
  /-- The identifier of the command, which its replays share. -/
  commandId : Uuid
  /-- The identifier of the flow that it is part of. -/
  correlationId : Uuid
  /-- The identifier of what has caused it, where something has. -/
  causationId : Option Uuid
  /-- Who has sent it. -/
  actor : Actor
  /-- The command, yet to be decoded. -/
  payload : Value

/-- `Delivered`: a frame, whose envelope may not decode, and how often it has been delivered. -/
structure Delivered where
  /-- The envelope, or why it could not be read. -/
  payload : Except String IntegrationCommand
  /-- How often the broker says that it has delivered the message. -/
  deliveredCount : Option Int

/-- `Trace`. -/
structure Trace where
  /-- The identifier of the command. -/
  commandId : Uuid
  /-- The identifier of its flow. -/
  correlationId : Uuid
  /-- The identifier of its cause. -/
  causationId : Option Uuid
  /-- Whether a person or a service has sent it. -/
  actorKind : String
  /-- Who that is. -/
  actorId : Uuid

/-- The trace of an envelope. -/
def Trace.of (envelope : IntegrationCommand) : Trace :=
  { commandId := envelope.commandId, correlationId := envelope.correlationId,
    causationId := envelope.causationId, actorKind := SvcNotifier.actorKind envelope.actor,
    actorId := envelope.actor.id }

/-- `Abandoned`. -/
structure Abandoned where
  /-- Where the command comes from. -/
  trace : Trace
  /-- Why it is abandoned. -/
  reason : DeadLetterReason
  /-- The text of the error. -/
  detail : String
  /-- The code PostgreSQL has given, where it has. -/
  sqlstate : Option String
  /-- The source event, where it could be read. -/
  sourceEventId : Option Uuid
  /-- The recipients that could be read. -/
  recipientIds : List Uuid
  /-- The payload as it was delivered. -/
  command : Value
  /-- How often it had been delivered. -/
  deliveredCount : Option Int

/-- `MessageOutcome`; the enumeration is open to further variants. -/
inductive MessageOutcome where
  /-- The message is done with. -/
  | ack
  /-- It is to be delivered again, after so many seconds if it says so. -/
  | nak (delay : Option Nat)
  /-- It is never to be delivered again. -/
  | term
  /-- A further variant. -/
  | other
  deriving DecidableEq, Repr

/-- What the broker is told of a delivery. -/
inductive Settlement where
  /-- It is done with. -/
  | ack
  /-- It is to be delivered again, after so many seconds if it says so. -/
  | nak (delay : Option Nat)
  /-- It is never to be delivered again. -/
  | term
  deriving DecidableEq, Repr

/-- The counters that a delivery may increment. -/
inductive Counter where
  /-- `notifier_intake_dead_letters_total`, by reason. -/
  | deadLetters (reason : DeadLetterReason)
  /-- `notifier_intake_transient_failures_total`. -/
  | transientFailures
  /-- `notifier_intake_undecodable_deliveries_total`. -/
  | undecodableDeliveries
  /-- `notifier_intake_ledger_failures_total`. -/
  | ledgerFailures
  deriving DecidableEq, Repr

/-- The calls of a delivery that leave the process. -/
inductive IntakeCall where
  /-- `fan_out`. -/
  | fanOut (command : DeliverNotification)
  /-- `record_dead_letter`. -/
  | recordDeadLetter (abandoned : Abandoned)
  /-- `ack`, `nak` or `term`. -/
  | settle (settlement : Settlement)
  /-- `increment(1)`. -/
  | count (counter : Counter)

/-- What a call returns; a settlement's error is only logged. -/
@[reducible]
def IntakeCall.Reply : IntakeCall → Type
  | .fanOut _ => Except SqlxError Nat
  | .recordDeadLetter _ => Except SqlxError (Option Uuid)
  | .settle _ => Bool
  | .count _ => Unit

/-- Code of the intake, which handles every error itself. -/
abbrev Handler (α : Type) := Program IntakeCall IntakeCall.Reply Empty α

/-- Make one call. -/
def invoke (request : IntakeCall) : Handler request.Reply := Program.perform request

/-- `NAK_DELAY`, in seconds. -/
def nakDelay : Nat := 1

/-- `UNDECODABLE_NAK_DELAY`, in seconds. -/
def undecodableNakDelay : Nat := 30

/-- `PERMANENTLY_INVALID_SQLSTATE_CLASSES`. -/
def permanentlyInvalidSqlstateClasses : List String := ["22", "23"]

/-- `classify_sqlstate`. -/
def classifySqlstate : Option String → FailureClass
  | some code =>
    if permanentlyInvalidSqlstateClasses.any fun prefix_ => prefix_.toList.isPrefixOf code.toList
    then .poison else .transient
  | none => .transient

/-- `classify`. -/
def classify : SqlxError → FailureClass
  | .database code => classifySqlstate code
  | _ => .transient

/-- `sqlstate_of`. -/
def sqlstateOf : SqlxError → Option String
  | .database code => code
  | _ => none

/-- `outcome_for`. -/
def outcomeFor : Option FailureClass → MessageOutcome
  | none => .ack
  | some .transient => .nak (some nakDelay)
  | some .poison => .term

/-- `outcome_for_undecodable_envelope`. -/
def outcomeForUndecodableEnvelope : MessageOutcome := .nak (some undecodableNakDelay)

/-- The settlement `apply` asks the broker for. -/
def settlementOf : MessageOutcome → Settlement
  | .ack => .ack
  | .nak delay => .nak delay
  | .term => .term
  | .other => .nak (some nakDelay)

/-- `apply`. -/
def apply (outcome : MessageOutcome) : Handler PUnit := do
  let _ ← invoke (.settle (settlementOf outcome))

/-- `abandon`. -/
def abandon (abandoned : Abandoned) : Handler FailureClass := do
  let recorded ← invoke (.recordDeadLetter abandoned)
  match recorded with
  | .ok (some _) => do
    let _ ← invoke (.count (.deadLetters abandoned.reason))
    pure .poison
  | .ok none => pure .poison
  | .error _ => do
    let _ ← invoke (.count .ledgerFailures)
    pure .transient

section

variable (serde : Serde) (errorText : SqlxError → String)

/-- `triage`; `errorText` is how `sqlx` prints an error. -/
def triage (command : DeliverNotification) (payload : Value) (trace : Trace)
    (deliveredCount : Option Int) (error : SqlxError) : Handler FailureClass :=
  match classify error with
  | .transient => pure .transient
  | .poison => abandon
      { trace := trace, reason := .storageRejected, detail := errorText error,
        sqlstate := sqlstateOf error, sourceEventId := some command.sourceEventId,
        recipientIds := command.recipientIds, command := payload,
        deliveredCount := deliveredCount }

/-- What is abandoned of a payload that `validate` refuses. -/
def refused (trace : Trace) (rejection : Rejection) (payload : Value)
    (deliveredCount : Option Int) : Abandoned :=
  { trace := trace, reason := rejection.reason, detail := rejection.detail, sqlstate := none,
    sourceEventId := tracedSourceEventId serde payload,
    recipientIds := tracedRecipientIds serde payload, command := payload,
    deliveredCount := deliveredCount }

/-- `handle`, once the envelope has been read: the failure, if any, that it settles on. -/
def attempt (payload : Value) (trace : Trace) (deliveredCount : Option Int) :
    Handler (Option FailureClass) :=
  match validate serde payload with
  | .error rejection => do
    let failure ← abandon (refused serde trace rejection payload deliveredCount)
    pure (some failure)
  | .ok command => do
    let written ← invoke (.fanOut command)
    match written with
    | .ok _ => pure none
    | .error error => do
      let failure ← triage errorText command payload trace deliveredCount error
      pure (some failure)

/-- `handle`. -/
def handle (delivered : Delivered) : Handler Verdict :=
  match delivered.payload with
  | .error _ => do
    let _ ← invoke (.count .undecodableDeliveries)
    apply outcomeForUndecodableEnvelope
    pure .notAttempted
  | .ok envelope => do
    let failure ← attempt serde errorText envelope.payload (.of envelope) delivered.deliveredCount
    apply (outcomeFor failure)
    match failure with
    | none => pure .written
    | some class_ => pure (.failed class_)

end

/-! ## The order and the reasons of a delivery's calls -/

/-- An error of SQLSTATE class 22 or 23. -/
def SqlxError.PermanentlyInvalid (error : SqlxError) : Prop :=
  ∃ code, error = .database (some code) ∧
    (['2', '2'] <+: code.toList ∨ ['2', '3'] <+: code.toList)

/-- `classify` tells those errors from all others. -/
theorem classify_eq_poison (error : SqlxError) :
    classify error = .poison ↔ error.PermanentlyInvalid := by
  cases error with
  | database code =>
    cases code with
    | none => simp [classify, classifySqlstate, SqlxError.PermanentlyInvalid]
    | some code =>
      have classes : permanentlyInvalidSqlstateClasses.any
          (fun prefix_ => prefix_.toList.isPrefixOf code.toList) = true ↔
          (['2', '2'] <+: code.toList ∨ ['2', '3'] <+: code.toList) := by
        simp [permanentlyInvalidSqlstateClasses]
      by_cases invalid : ['2', '2'] <+: code.toList ∨ ['2', '3'] <+: code.toList
      · simp only [classify, classifySqlstate, if_pos (classes.mpr invalid), true_iff]
        exact ⟨code, rfl, invalid⟩
      · simp only [classify, classifySqlstate, if_neg (fun h => invalid (classes.mp h)),
          reduceCtorEq, false_iff]
        rintro ⟨other, same, matched⟩
        simp only [SqlxError.database.injEq, Option.some.injEq] at same
        exact invalid (same ▸ matched)
  | decode error => simp [classify, SqlxError.PermanentlyInvalid]
  | other message => simp [classify, SqlxError.PermanentlyInvalid]

/-- A call that has returned, with its reply. -/
structure Event where
  /-- The call. -/
  request : IntakeCall
  /-- What it has returned. -/
  reply : request.Reply

/-- The event is a settlement. -/
def Event.settles (event : Event) : Bool :=
  match event.request with
  | .settle _ => true
  | _ => false

variable (serde : Serde)

/-- What justifies a settlement, among the calls of the delivery so far. An ack needs a fan-out
of the command that returned; a term needs a ledger write that returned. -/
inductive Justified (delivered : Delivered) (events : List Event) : Settlement → Prop where
  /-- The rows of the command have been written. -/
  | ack {envelope : IntegrationCommand} {command : DeliverNotification} {written : Nat}
      (decoded : delivered.payload = .ok envelope)
      (valid : validate serde envelope.payload = .ok command)
      (returned : ⟨.fanOut command, .ok written⟩ ∈ events) : Justified delivered events .ack
  /-- The ledger has been written. -/
  | term {abandoned : Abandoned} {id : Option Uuid}
      (returned : ⟨.recordDeadLetter abandoned, .ok id⟩ ∈ events) :
      Justified delivered events .term
  /-- Nothing is asked for, as the message comes again. -/
  | nak (delay : Option Nat) : Justified delivered events (.nak delay)

/-- A reply that keeps a delivery from any settlement but a NAK: the write failed with anything
but an error of a permanently invalid class, or the ledger write failed. -/
def Event.holds : Event → Prop
  | ⟨.fanOut _, .error error⟩ => ¬ error.PermanentlyInvalid
  | ⟨.recordDeadLetter _, .error _⟩ => True
  | _ => False

/-- What keeps a delivery from any settlement but a NAK: the envelope cannot be decoded, or a
call has returned such a reply. -/
def Held (delivered : Delivered) (events : List Event) : Prop :=
  (∃ error, delivered.payload = .error error) ∨ ∃ event ∈ events, event.holds

/-- When a call may be made: a settlement once, justified, and only a NAK where the delivery is
held; a fan-out of the validated command; a ledger row under the frame's own ids. -/
def Permitted (delivered : Delivered) (events : List Event) : IntakeCall → Prop
  | .fanOut command => (∀ event ∈ events, event.settles = false) ∧
      ∃ envelope, delivered.payload = .ok envelope ∧
        validate serde envelope.payload = .ok command
  | .recordDeadLetter abandoned => (∀ event ∈ events, event.settles = false) ∧
      ∃ envelope, delivered.payload = .ok envelope ∧ abandoned.trace = .of envelope ∧
        abandoned.command = envelope.payload
  | .settle settlement => (∀ event ∈ events, event.settles = false) ∧
      Justified serde delivered events settlement ∧
      (Held delivered events → ∃ delay, settlement = .nak delay)
  | .count _ => True

/-- The calls of one delivery, each permitted by those before it, whatever the replies. -/
def deliveryContract (delivered : Delivered) :
    Contract IntakeCall IntakeCall.Reply (List Event) where
  requires request events := Permitted serde delivered events request
  allows request events reply after := after = events ++ [⟨request, reply⟩]

/-- The rule for a call: its reply is recorded. -/
theorem ensures_invoke {delivered : Delivered} {α : Type} {post : α → List Event → Prop}
    {events : List Event} (request : IntakeCall) {next : request.Reply → Handler α}
    (permitted : Permitted serde delivered events request)
    (later : ∀ reply, Ensures (deliveryContract serde delivered) post (next reply)
      (events ++ [⟨request, reply⟩])) :
    Ensures (deliveryContract serde delivered) post (invoke request >>= next) events := by
  refine ⟨permitted, ?_⟩
  rintro reply _ rfl
  exact later reply

/-- What the calls before the settlement have come to. -/
structure Attempted (delivered : Delivered) (failure : Option FailureClass)
    (events : List Event) : Prop where
  /-- Nothing has been settled yet. -/
  open_ : ∀ event ∈ events, event.settles = false
  /-- The settlement to come is justified. -/
  justified : Justified serde delivered events (settlementOf (outcomeFor failure))
  /-- What is held has failed in passing. -/
  held : Held delivered events → failure = some .transient

variable {serde} {delivered : Delivered} {events : List Event}

/-- A failed delivery is held only by a reply that holds it. -/
theorem held_append {event : Event} :
    Held delivered (events ++ [event]) ↔ Held delivered events ∨ event.holds := by
  simp only [Held, List.mem_append, List.mem_singleton, or_and_right, exists_or, exists_eq_left,
    or_assoc]

/-- What justifies a settlement keeps justifying it. -/
theorem Justified.mono {settlement : Settlement} {later : List Event}
    (justified : Justified serde delivered events settlement) (kept : events ⊆ later) :
    Justified serde delivered later settlement := by
  cases justified with
  | ack decoded valid returned => exact .ack decoded valid (kept returned)
  | term returned => exact .term (kept returned)
  | nak delay => exact .nak delay

/-- Counting changes nothing of what the calls have come to. -/
theorem Attempted.count {failure : Option FailureClass} {counter : Counter}
    (attempted : Attempted serde delivered failure events) :
    Attempted serde delivered failure (events ++ [⟨.count counter, ()⟩]) := by
  refine ⟨?_, ?_, ?_⟩
  · intro event member
    rcases List.mem_append.mp member with old | new
    · exact attempted.open_ event old
    · rw [List.mem_singleton.mp new]
      rfl
  · exact attempted.justified.mono (List.subset_append_left _ _)
  · intro held
    rcases held_append.mp held with old | new
    · exact attempted.held old
    · exact new.elim

/-- `abandon` ends in a term when the ledger write returned, and in a hold when it failed. -/
theorem abandon_ensures {envelope : IntegrationCommand} {abandoned : Abandoned}
    (open_ : ∀ event ∈ events, event.settles = false) (free : ¬ Held delivered events)
    (decoded : delivered.payload = .ok envelope) (trace : abandoned.trace = .of envelope)
    (command : abandoned.command = envelope.payload) :
    Ensures (deliveryContract serde delivered)
      (fun failure after => Attempted serde delivered (some failure) after)
      (abandon abandoned) events := by
  refine ensures_invoke serde _ ⟨open_, envelope, decoded, trace, command⟩ fun reply => ?_
  have stillOpen : ∀ event ∈ events ++ [⟨.recordDeadLetter abandoned, reply⟩],
      event.settles = false := by
    intro event member
    rcases List.mem_append.mp member with old | new
    · exact open_ event old
    · rw [List.mem_singleton.mp new]
      rfl
  cases reply with
  | ok recorded =>
    have poison : Attempted serde delivered (some .poison)
        (events ++ [⟨.recordDeadLetter abandoned, .ok recorded⟩]) := by
      refine ⟨stillOpen, .term (List.mem_append_right _ List.mem_cons_self), fun held => ?_⟩
      rcases held_append.mp held with old | new
      · exact absurd old free
      · exact new.elim
    cases recorded with
    | some id => exact ensures_invoke serde _ trivial fun _ => poison.count
    | none => exact poison
  | error error =>
    have transient : Attempted serde delivered (some .transient)
        (events ++ [⟨.recordDeadLetter abandoned, .error error⟩]) :=
      ⟨stillOpen, .nak _, fun _ => rfl⟩
    exact ensures_invoke serde _ trivial fun _ => transient.count

/-- What `handle` does before it settles. -/
theorem attempt_ensures (errorText : SqlxError → String) {envelope : IntegrationCommand}
    (decoded : delivered.payload = .ok envelope) :
    Ensures (deliveryContract serde delivered)
      (fun failure after => Attempted serde delivered failure after)
      (attempt serde errorText envelope.payload (.of envelope) delivered.deliveredCount) [] := by
  have unheld : ¬ Held delivered [] := by
    rintro (⟨error, refused⟩ | ⟨event, member, -⟩)
    · rw [decoded] at refused
      contradiction
    · cases member
  unfold attempt
  split
  · exact Ensures.bind ((abandon_ensures (by simp) unheld decoded rfl rfl).mono
      fun _ _ attempted => attempted)
  · rename_i command valid
    refine ensures_invoke serde _ ⟨by simp, envelope, decoded, valid⟩ fun reply => ?_
    have open_ : ∀ event ∈ [(⟨.fanOut command, reply⟩ : Event)], event.settles = false := by
      intro event member
      rw [List.mem_singleton.mp member]
      rfl
    cases reply with
    | ok written =>
      refine ⟨open_, .ack decoded valid List.mem_cons_self, fun held => ?_⟩
      rcases held_append.mp held with old | new
      · exact absurd old unheld
      · exact new.elim
    | error error =>
      dsimp only [triage]
      cases class_ : classify error with
      | transient => exact ⟨open_, .nak _, fun _ => rfl⟩
      | poison =>
        have free : ¬ Held delivered [⟨.fanOut command, .error error⟩] := by
          intro held
          rw [← List.nil_append [_], held_append] at held
          rcases held with old | new
          · exact unheld old
          · exact new ((classify_eq_poison error).mp class_)
        exact Ensures.bind ((abandon_ensures open_ free decoded rfl rfl).mono
          fun _ _ attempted => attempted)

/-- The delivery has issued exactly one settlement, its last call. -/
def SettledOnce (events : List Event) : Prop :=
  ∃ before settlement landed, events = before ++ [⟨.settle settlement, landed⟩] ∧
    ∀ event ∈ before, event.settles = false

/-- Every call of `handle` is permitted, and when it returns it has settled the delivery once. -/
theorem handle_ensures (errorText : SqlxError → String) (delivered : Delivered) :
    Ensures (deliveryContract serde delivered) (fun _ after => SettledOnce after)
      (handle serde errorText delivered) [] := by
  unfold handle
  split
  · rename_i error refused
    refine ensures_invoke serde _ trivial fun _ => ?_
    refine ensures_invoke serde _ ⟨?_, .nak _, fun _ => ⟨_, rfl⟩⟩ fun landed => ?_
    · intro event member
      rw [List.mem_singleton.mp member]
      rfl
    · refine ⟨[⟨.count .undecodableDeliveries, ()⟩], _, landed, rfl, ?_⟩
      intro event member
      rw [List.mem_singleton.mp member]
      rfl
  · rename_i envelope decoded
    refine Ensures.bind ((attempt_ensures errorText decoded).mono fun failure after attempted => ?_)
    have permitted : Permitted serde delivered after
        (.settle (settlementOf (outcomeFor failure))) := by
      refine ⟨attempted.open_, attempted.justified, fun held => ⟨some nakDelay, ?_⟩⟩
      rw [attempted.held held]
      rfl
    refine ensures_invoke serde _ permitted fun landed => ?_
    have once : SettledOnce
        (after ++ [⟨.settle (settlementOf (outcomeFor failure)), landed⟩]) :=
      ⟨after, _, landed, rfl, attempted.open_⟩
    cases failure <;> exact once

end SvcNotifier
