import SvcNotifier.Intake.Sound
import Mathlib.Data.List.Induction

/-!
# What a settlement proves

What the broker is told of a frame, what the database holds of it and what the ledger holds of
it, over every run: redeliveries, crashes, lost replies, lost settlements and the retention
pass included.
-/

namespace SvcNotifier

open Library Program

namespace Intake

variable {serde : Serde} {errorText : SqlxError → String} {initial : List Row}
  {intake after : Intake}

/-- A row is of a delivered command that was accepted: it has one of its recipients and all of
its content. -/
def Stems (serde : Serde) (intake : Intake) (row : Row) : Prop :=
  ∃ number command, Accepts serde intake number command ∧
    row.recipientId ∈ command.recipientIds ∧ row.sourceEventId = command.sourceEventId ∧
    row.template = command.template ∧ row.payload = command.payload ∧
    row.link = command.link.map RelativeLink.asStr

/-- A row made by a committed operation is of a delivered command that was accepted. -/
theorem Sound.stems (sound : Sound serde initial intake) {row : Row} {sid : Nat}
    {operation : Operation} (made : intake.store.MadeBy (.insert row) sid operation) :
    Stems serde intake row := by
  obtain ⟨answer, now, ended, statement, writing, permitted⟩ := made
  cases operation with
  | fanOut nowV7 command =>
    obtain rfl : Operation.insertion nowV7 command = statement := Option.some.inj writing
    obtain ⟨proposed, member, same⟩ := permitted
    obtain rfl := Write.insert.inj same
    obtain ⟨pair, paired, rfl⟩ := List.mem_map.mp member
    obtain ⟨number, -, accepts⟩ := sound.owned sid nowV7 command (Or.inr ⟨_, ended⟩)
    exact ⟨number, command, accepts, (List.of_mem_zip paired).2, rfl, rfl, rfl, rfl⟩
  | notifications caller first after => contradiction
  | unreadCount caller => contradiction
  | markAsRead caller id =>
    obtain rfl := Option.some.inj writing
    obtain ⟨other, -, same⟩ := permitted
    simp [Statement.write] at same
  | markAllAsRead utcNow caller =>
    obtain rfl := Option.some.inj writing
    obtain ⟨other, -, same⟩ := permitted
    simp [Statement.write] at same
  | deleteNotification caller id =>
    obtain rfl := Option.some.inj writing
    obtain ⟨other, -, same⟩ := permitted
    simp [Statement.write] at same
  | deleteNotifications caller ids =>
    obtain rfl := Option.some.inj writing
    obtain ⟨other, -, same⟩ := permitted
    simp [Statement.write] at same

/-- Every row committed since the start is of an accepted command. -/
theorem Sound.committed_stems (sound : Sound serde initial intake) {row : Row}
    (committed : .insert row ∈ intake.store.history) :
    row ∈ initial ∨ Stems serde intake row := by
  obtain ⟨made, history, -, by_⟩ := sound.store.attributed
  rw [history, List.mem_append] at committed
  rcases committed with old | new
  · obtain ⟨first, member, same⟩ := List.mem_map.mp old
    exact Or.inl (Write.insert.inj same ▸ member)
  · obtain ⟨sid, operation, made⟩ := by_ _ new
    exact Or.inr (sound.stems made)

/-- Every `Added` in the log announces a row of an accepted command. -/
theorem Sound.added_stems (sound : Sound serde initial intake) {fact : Fact}
    (stated : fact ∈ intake.store.log.flatMap NotificationSignal.facts)
    (added : fact.kind = .added) :
    ∃ row, .insert row ∈ intake.store.history ∧ Stems serde intake row ∧
      row.recipientId = fact.recipientId ∧ row.id = fact.id := by
  obtain ⟨made, history, log, by_⟩ := sound.store.attributed
  rw [log] at stated
  obtain ⟨write, member, rfl⟩ := List.mem_map.mp stated
  cases write with
  | insert row =>
    obtain ⟨sid, operation, made⟩ := by_ _ member
    exact ⟨row, history ▸ List.mem_append_right _ member, sound.stems made, rfl, rfl⟩
  | setRead row readAt => contradiction
  | delete row => contradiction

/-- A call of a delivery that has returned is in the trace under its number. -/
theorem mem_eventsOf {number : Nat} {event : Event} :
    event ∈ intake.eventsOf number ↔ (number, event) ∈ intake.trace := by
  simp [eventsOf]

/-- A settlement is issued by a replica whose delivery has come to it. -/
theorem settles_of_step {action : Action} {number : Nat} {settlement : Settlement}
    {landed : Bool} (stepped : step serde errorText intake action = some after)
    (issued : after.trace = intake.trace ++ [(number, ⟨.settle settlement, landed⟩)]) :
    ∃ replica delivery next, intake.replicas replica = some delivery ∧
      delivery.program = .call (.settle settlement) next ∧ delivery.number = number := by
  have unchanged : ∀ {trace : List (Nat × Event)} {entry : Nat × Event},
      trace ≠ trace ++ [entry] := by
    simp
  cases moves_of_step stepped with
  | deliver idle => exact absurd issued unchanged
  | openFanOut busy at_ alone begun => exact absurd issued unchanged
  | finish busy at_ => exact absurd issued unchanged
  | crash => exact absurd issued unchanged
  | purge => exact absurd issued unchanged
  | database foreign moved => exact absurd issued unchanged
  | fanOutReturns busy at_ waiting committed => simp [reply] at issued
  | fanOutFails busy at_ => simp [reply] at issued
  | record busy at_ answered => simp [reply, Intake.record] at issued
  | recordLost busy at_ => simp [reply, Intake.record] at issued
  | recordFails busy at_ => simp [reply] at issued
  | count busy at_ => simp [reply] at issued
  | @settle replica landed' delivery settlement' next busy at_ =>
    have same := List.append_cancel_left issued
    simp only [List.cons.injEq, Prod.mk.injEq, Event.mk.injEq, IntakeCall.settle.injEq,
      and_true] at same
    obtain ⟨rfl, rfl, -⟩ := same
    exact ⟨replica, delivery, next, busy, at_, rfl⟩

/-- An ack that is justified comes after a row for each recipient. -/
theorem Sound.acked (sound : Sound serde initial intake) {number : Nat} {frame : Delivered}
    (justified : Justified serde frame (intake.eventsOf number) .ack) :
    ∃ envelope command, frame.payload = .ok envelope ∧
      validate serde envelope.payload = .ok command ∧
      ∀ recipientId ∈ command.recipientIds,
        intake.store.Created (command.sourceEventId, recipientId) := by
  cases justified with
  | @ack envelope command written decoded valid returned =>
    exact ⟨envelope, command, decoded, valid,
      sound.written number command written (mem_eventsOf.mp returned)⟩

/-- A term that is justified comes after a ledger row under the frame's command id. -/
theorem Sound.termed (sound : Sound serde initial intake) {number : Nat} {frame : Delivered}
    (framed : intake.frame? number = some frame)
    (justified : Justified serde frame (intake.eventsOf number) .term) :
    ∃ envelope, frame.payload = .ok envelope ∧
      ∃ letter ∈ intake.recorded, letter.commandId = envelope.commandId := by
  cases justified with
  | @term abandoned id returned =>
    obtain ⟨before, later, split⟩ := List.append_of_mem returned
    obtain ⟨-, envelope, decoded, trace, -⟩ :=
      sound.orderly number frame framed before _ later split
    obtain ⟨letter, member, same⟩ :=
      sound.lettered number abandoned id (mem_eventsOf.mp returned)
    exact ⟨envelope, decoded, letter, member, by rw [same, trace]; rfl⟩

end Intake

/-- Nothing that holds a delivery comes after its settlement. -/
theorem Orderly.held_before {serde : Serde} {frame : Delivered}
    {events before later : List Event} {event : Event} (orderly : Orderly serde frame events)
    (split : events = before ++ event :: later) (settles : event.settles = true)
    (held : Held frame events) : Held frame before := by
  rcases held with undecodable | ⟨other, member, holds⟩
  · exact Or.inl undecodable
  · rw [split, List.mem_append, List.mem_cons] at member
    rcases member with old | rfl | new
    · exact Or.inr ⟨other, old, holds⟩
    · obtain ⟨request, reply⟩ := other
      cases request <;> simp_all [Event.settles, Event.holds]
    · -- A call after the settlement is a count, which holds nothing.
      obtain ⟨first, last, rfl⟩ := List.append_of_mem new
      have permitted := orderly (before ++ event :: first) other last (by rw [split]; simp)
      have inside : event ∈ before ++ event :: first := by simp
      obtain ⟨request, reply⟩ := other
      cases request with
      | fanOut command => simp [permitted.1 event inside] at settles
      | recordDeadLetter abandoned => simp [permitted.1 event inside] at settles
      | settle settlement => simp [permitted.1 event inside] at settles
      | count counter => exact holds.elim

/-- A delivery never settles twice. -/
theorem Orderly.settles_once {serde : Serde} {frame : Delivered} {events : List Event}
    (orderly : Orderly serde frame events) : events.countP Event.settles ≤ 1 := by
  induction events using List.reverseRecOn with
  | nil => simp
  | append_singleton before event ih =>
    have earlier : Orderly serde frame before := by
      intro first other later split
      exact orderly first other (later ++ [event]) (by rw [split]; simp)
    have permitted := orderly before event [] rfl
    rw [List.countP_append, List.countP_singleton]
    by_cases settles : event.settles = true
    · -- A settlement is permitted only where none came before.
      have none_ : before.countP Event.settles = 0 := by
        rw [List.countP_eq_zero]
        intro other member
        obtain ⟨request, reply⟩ := event
        cases request with
        | settle settlement => simp [permitted.1 other member]
        | fanOut command => simp [permitted.1 other member]
        | recordDeadLetter abandoned => simp [permitted.1 other member]
        | count counter => contradiction
      rw [none_, if_pos settles]
    · rw [if_neg settles]
      exact ih earlier

/-- A delivery that has settled once has one settlement among its calls. -/
theorem SettledOnce.countP {events : List Event} (once : SettledOnce events) :
    events.countP Event.settles = 1 := by
  obtain ⟨before, settlement, landed, rfl, open_⟩ := once
  have none_ : before.countP Event.settles = 0 := by
    rw [List.countP_eq_zero]
    intro event member
    simp [open_ event member]
  rw [List.countP_append, none_]
  rfl

/-- Settlement safety, over every run of the replicas and the database from any table.
An ack is issued only once every recipient of the frame's command has had a row committed, and
a term only once the ledger has had a row under the frame's command id. A delivery that is held
issues nothing but NAKs. A payload that is refused never opens a fan-out, and every row and
every `Added` is of an accepted command. No delivery issues two settlements, and one that has
run to its end has issued exactly one. -/
theorem settlement_safety (serde : Serde) (errorText : SqlxError → String)
    (table : Notifications) (intake : Intake)
    (reached : Intake.Reachable serde errorText table intake) :
    (∀ action after number settlement landed,
      Intake.step serde errorText intake action = some after →
      after.trace = intake.trace ++ [(number, ⟨.settle settlement, landed⟩)] →
      ∃ frame, intake.frame? number = some frame ∧
        (settlement = .ack → ∃ envelope command, frame.payload = .ok envelope ∧
          validate serde envelope.payload = .ok command ∧
          ∀ recipientId ∈ command.recipientIds,
            intake.store.Created (command.sourceEventId, recipientId)) ∧
        (settlement = .term → ∃ envelope, frame.payload = .ok envelope ∧
          ∃ letter ∈ intake.recorded, letter.commandId = envelope.commandId)) ∧
    (∀ number frame settlement landed, intake.frame? number = some frame →
      Held frame (intake.eventsOf number) →
      ⟨.settle settlement, landed⟩ ∈ intake.eventsOf number → ∃ delay, settlement = .nak delay) ∧
    (∀ number frame envelope rejection, intake.frame? number = some frame →
      frame.payload = .ok envelope → validate serde envelope.payload = .error rejection →
      (∀ entry ∈ intake.fanOuts, entry.2 ≠ number) ∧
        ∀ command reply, ⟨.fanOut command, reply⟩ ∉ intake.eventsOf number) ∧
    (∀ row, .insert row ∈ intake.store.history →
      row ∈ table.rows ∨ Intake.Stems serde intake row) ∧
    (∀ fact ∈ intake.store.log.flatMap NotificationSignal.facts, fact.kind = .added →
      ∃ row, .insert row ∈ intake.store.history ∧ Intake.Stems serde intake row ∧
        row.recipientId = fact.recipientId ∧ row.id = fact.id) ∧
    (∀ number < intake.delivered.length,
      (intake.eventsOf number).countP Event.settles ≤ 1) ∧
    ∀ number ∈ intake.ended, (intake.eventsOf number).countP Event.settles = 1 := by
  have sound := reached.sound
  refine ⟨?_, ?_, ?_, fun row => sound.committed_stems, fun fact => sound.added_stems, ?_,
    fun number inside => (sound.ended number inside).countP⟩
  · intro action after number settlement landed stepped issued
    obtain ⟨replica, delivery, next, busy, at_, rfl⟩ := Intake.settles_of_step stepped issued
    obtain ⟨framed, goes⟩ := sound.busy replica delivery busy
    rw [at_] at goes
    exact ⟨delivery.frame, framed, fun ack => sound.acked (ack ▸ goes.1.2.1),
      fun term => sound.termed framed (term ▸ goes.1.2.1)⟩
  · intro number frame settlement landed framed held issued
    obtain ⟨before, later, split⟩ := List.append_of_mem issued
    have orderly := sound.orderly number frame framed
    have permitted := orderly before _ later split
    exact permitted.2.2 (orderly.held_before split rfl held)
  · intro number frame envelope rejection framed decoded refused
    have never : ∀ command, ¬ Intake.Accepts serde intake number command := by
      rintro command ⟨frame', envelope', framed', decoded', valid⟩
      obtain rfl := Option.some.inj (framed.symm.trans framed')
      obtain rfl := Except.ok.inj (decoded.symm.trans decoded')
      rw [refused] at valid
      contradiction
    constructor
    · rintro entry member rfl
      obtain ⟨command, accepts⟩ := sound.accepted entry member
      exact never command accepts
    · intro command reply called
      obtain ⟨before, later, split⟩ := List.append_of_mem called
      obtain ⟨-, envelope', decoded', valid⟩ :=
        sound.orderly number frame framed before _ later split
      exact never command ⟨frame, envelope', framed, decoded', valid⟩
  · intro number inside
    exact (sound.orderly number _ (List.getElem?_eq_getElem inside)).settles_once

/-! ## A delivery to run -/

/-- The envelope that carries `samplePayload`. -/
def sampleEnvelope : IntegrationCommand :=
  { commandId := sampleId 4, correlationId := sampleId 5, causationId := none,
    actor := .service (sampleId 6), payload := samplePayload }

/-- The frame of the envelope. -/
def sampleFrame : Delivered := { payload := .ok sampleEnvelope, deliveredCount := some 1 }

/-- One step, with the identifiers of `sampleSerde`. -/
def sampleStep : Intake → Intake.Action → Option Intake := Intake.step sampleSerde fun _ => ""

/-- A delivery of the frame to a replica, up to its settlement: the fan-out takes place in
session `sid` and mints identifiers from `first` on. -/
def sampleDelivery (sid first : Nat) : List Intake.Action :=
  [.deliver 0 sampleFrame, .openFanOut 0 sid (fun i => sampleId (i + first)) ⟨0⟩,
    .database (.advance sid), .database (.visit sid 0), .database (.visit sid 0),
    .database (.finish sid), .database (.advance sid), .database (.commit sid),
    .fanOutReturns 0]

/-- The intake before the ack. -/
def sampleAttempted : Intake :=
  (play sampleStep (Intake.start []) (sampleDelivery 0 10)).get (by decide)

/-- The intake after the ack, which is lost. -/
def sampleAcked : Intake := (sampleStep sampleAttempted (.settle 0 false)).get (by decide)

/-- The ack is lost after a run from the empty table. -/
theorem sampleAcked_reached :
    Intake.Reachable sampleSerde (fun _ => "") .empty sampleAcked := by
  have attempted : Intake.Reachable sampleSerde (fun _ => "") .empty sampleAttempted :=
    reaches_of_play (Option.some_get _).symm
  exact Reaches.snoc attempted trivial (Option.some_get _).symm

/-- The frame is acked after both rows. -/
theorem settlement_safety_sample :
    sampleAttempted.store.Created (sampleId 1, sampleId 2) ∧
      sampleAttempted.store.Created (sampleId 1, sampleId 3) := by
  have reached : Intake.Reachable sampleSerde (fun _ => "") .empty sampleAttempted :=
    reaches_of_play (Option.some_get _).symm
  have stepped : sampleStep sampleAttempted (.settle 0 false) = some sampleAcked :=
    (Option.some_get _).symm
  obtain ⟨frame, framed, acked, -⟩ :=
    (settlement_safety sampleSerde _ .empty sampleAttempted reached).1 _ _ 0 .ack false stepped rfl
  obtain ⟨envelope, command, decoded, valid, created⟩ := acked rfl
  obtain rfl : sampleFrame = frame := Option.some.inj framed
  obtain rfl : sampleEnvelope = envelope := Except.ok.inj decoded
  obtain rfl : sampleDeliver = command := Except.ok.inj valid
  exact ⟨created _ (by decide), created _ (by decide)⟩

end SvcNotifier
