import SvcNotifier.Intake.Durable

/-!
# `publisher.rs`

The producer's side: a command goes out in an envelope of its own, encoded as the contract
encodes it, and from there on is the stream's. What comes of it is told in the command's own
terms, through the encoder, the decoder, the validation and the durable.
-/

namespace SvcNotifier

open Library Program

/-- `EventMetadata`, as far as the intake reads it. -/
structure EventMetadata where
  /-- The identifier of the flow that the command is part of. -/
  correlationId : Uuid
  /-- The identifier of what has caused the command, where something has. -/
  causationId : Option Uuid
  /-- Who has sent it. -/
  actor : Actor

/-- `NotifierPublisher::deliver`: the envelope that is published; `nowV7` is the identifier it
mints. -/
def NotifierPublisher.deliver (nowV7 : Uuid) (metadata : EventMetadata)
    (command : DeliverNotification) : IntegrationCommand :=
  { commandId := nowV7, correlationId := metadata.correlationId,
    causationId := metadata.causationId, actor := metadata.actor, payload := command.encode }

namespace DeliverNotification

variable {serde : Serde} {command : DeliverNotification}

/-- The identifiers of a command are read back from their texts. -/
def Readable (serde : Serde) (command : DeliverNotification) : Prop :=
  ∀ id ∈ command.sourceEventId :: command.recipientIds, serde.parseStr id.hyphenated = some id

/-- What is accepted of an encoded command is the command, which is deliverable. -/
theorem Readable.accepted (readable : command.Readable serde) {found : DeliverNotification}
    (valid : validate serde command.encode = .ok found) :
    found = command ∧ command.Deliverable := by
  rw [validate_of_decode (decode_encode readable)] at valid
  exact judge_eq_ok.mp valid

/-- An encoded command that is refused is not deliverable, and the reason is one of two. -/
theorem Readable.refused (readable : command.Readable serde) {rejection : Rejection}
    (refused : validate serde command.encode = .error rejection) :
    ¬ command.Deliverable ∧
      (rejection.reason = .noRecipients ∨ rejection.reason = .templateRejected) := by
  rw [validate_of_decode (decode_encode readable)] at refused
  rcases judge_eq command with ⟨-, judged⟩ | ⟨unaddressed, detail, judged⟩ |
    ⟨-, undeliverable, detail, judged⟩
  · rw [judged] at refused
    contradiction
  · rw [judged] at refused
    obtain rfl := Except.error.inj refused
    exact ⟨fun deliverable => deliverable.addressed unaddressed, Or.inl rfl⟩
  · rw [judged] at refused
    obtain rfl := Except.error.inj refused
    exact ⟨undeliverable, Or.inr rfl⟩

/-- What becomes of a command that has been published under a command id. -/
inductive Outcome (intake : Intake) (commandId : Uuid) (command : DeliverNotification) : Prop where
  /-- Each of its recipients has had a row committed. -/
  | delivered (deliverable : command.Deliverable)
      (created : ∀ recipientId ∈ command.recipientIds,
        intake.store.Created (command.sourceEventId, recipientId))
  /-- PostgreSQL has refused its rows for good, and the ledger names everybody. -/
  | rejected (letter : DeadLetter) (recorded : letter ∈ intake.recorded)
      (same : letter.commandId = commandId) (kept : letter.command = command.encode)
      (deliverable : command.Deliverable)
      (reason : letter.reason = DeadLetterReason.storageRejected.asStr)
      (source : letter.sourceEventId = some command.sourceEventId)
      (recipients : letter.recipientIds = command.recipientIds)
  /-- It is not deliverable, and the ledger says why. -/
  | refused (letter : DeadLetter) (recorded : letter ∈ intake.recorded)
      (same : letter.commandId = commandId) (kept : letter.command = command.encode)
      (undeliverable : ¬ command.Deliverable)
      (reason : letter.reason = DeadLetterReason.noRecipients.asStr ∨
        letter.reason = DeadLetterReason.templateRejected.asStr)

/-- A published command that is accounted for has come to one of these. -/
theorem Readable.outcome (readable : command.Readable serde) {durable : Durable} {nowV7 : Uuid}
    {metadata : EventMetadata}
    (accounted : Durable.Accounted serde durable
      (NotifierPublisher.deliver nowV7 metadata command)) :
    command.Outcome durable.intake nowV7 := by
  rcases accounted with ⟨found, valid, created⟩ |
    ⟨letter, recorded, first, -, sameId, samePayload, explains⟩
  · obtain ⟨rfl, deliverable⟩ := readable.accepted valid
    exact .delivered deliverable created
  · -- The row may have been recorded for a message with the same content.
    have isPayload : first.payload = command.encode := samePayload
    have sameLetter : letter.commandId = nowV7 := explains.commandId.trans sameId
    have kept : letter.command = command.encode := explains.command.trans isPayload
    rcases explains.why with ⟨reason, code, found, -, -, valid, source, recipients⟩ |
      ⟨-, rejection, refused, reason⟩
    · rw [isPayload] at valid
      obtain ⟨rfl, deliverable⟩ := readable.accepted valid
      exact .rejected letter recorded sameLetter kept deliverable reason source recipients
    · rw [isPayload] at refused
      obtain ⟨undeliverable, which⟩ := readable.refused refused
      refine .refused letter recorded sameLetter kept undeliverable ?_
      rw [reason]
      exact which.imp (congrArg _) (congrArg _)

end DeliverNotification

end SvcNotifier
