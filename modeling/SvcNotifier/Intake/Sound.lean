import SvcNotifier.Intake.Replicas

/-!
# The invariant of the intake

It relates the deliveries, the two tables and the calls that have returned: every call was
permitted by those before it in its delivery, a fan-out that returned has created a row for
each recipient, a ledger write that returned has left a row under the frame's command id, and
every fan-out's session belongs to a delivery whose payload was accepted.
-/

namespace SvcNotifier

open Library Program

/-- A session runs, or has run, an operation. -/
def Store.Runs (store : Store) (sid : Nat) (operation : Operation) : Prop :=
  (∃ session, store.sessions sid = some session ∧ session.operation = operation) ∨
    ∃ outcome, store.outcomes sid = some (operation, outcome)

namespace Store

variable {store after : Store} {initial : List Row} {action : Store.Action} {sid : Nat}
  {operation : Operation}

/-- A session keeps its operation. -/
theorem runs_kept (sound : Sound initial store) (stepped : store.step action = some after)
    (runs : store.Runs sid operation) : after.Runs sid operation := by
  rcases runs with ⟨session, found, same⟩ | ⟨outcome, ended⟩
  · obtain ⟨acted, turn, others⟩ := turn_of_step stepped
    by_cases here : sid = acted
    · subst here
      cases turn with
      | opens asked idle => simp [found] at idle
      | @goesOn was later is _ _ left kept =>
        obtain rfl := Option.some.inj (found.symm.trans is)
        exact Or.inl ⟨later, left, kept.trans same⟩
      | @commits was answer asked is at_ left ended =>
        obtain rfl := Option.some.inj (found.symm.trans is)
        exact Or.inr ⟨.committed answer, same ▸ ended⟩
      | @rollsBack was asked is left ended =>
        obtain rfl := Option.some.inj (found.symm.trans is)
        exact Or.inr ⟨.rolledBack, same ▸ ended⟩
    · exact Or.inl ⟨session, (others sid here).1.trans found, same⟩
  · exact Or.inr ⟨outcome, outcomes_kept sound stepped ended⟩

/-- An operation is running because it was, or because it has just begun. -/
theorem runs_cases (stepped : store.step action = some after)
    (runs : after.Runs sid operation) :
    store.Runs sid operation ∨ ∃ now, action = .begin sid operation now := by
  rcases runs with ⟨session, found, same⟩ | ⟨outcome, ended⟩
  · obtain ⟨acted, turn, others⟩ := turn_of_step stepped
    by_cases here : sid = acted
    · subst here
      cases turn with
      | @opens began now asked idle unused is =>
        obtain rfl := Option.some.inj (found.symm.trans is)
        obtain rfl : began = operation := same
        exact Or.inr ⟨now, asked⟩
      | @goesOn was later is _ _ left kept =>
        obtain rfl := Option.some.inj (found.symm.trans left)
        exact Or.inl (Or.inl ⟨was, is, kept.symm.trans same⟩)
      | commits asked is at_ left => simp [left] at found
      | rollsBack asked is left => simp [left] at found
    · exact Or.inl (Or.inl ⟨session, (others sid here).1.symm.trans found, same⟩)
  · rcases outcome_cases stepped ended with old | ⟨session, found, same, -⟩
    · exact Or.inl (Or.inr ⟨outcome, old⟩)
    · exact Or.inl (Or.inl ⟨session, found, same.symm⟩)

end Store

/-- Every call was permitted by those before it. -/
def Orderly (serde : Serde) (frame : Delivered) (events : List Event) : Prop :=
  ∀ before event later, events = before ++ event :: later →
    Permitted serde frame before event.request

/-- One more permitted call. -/
theorem Orderly.snoc {serde : Serde} {frame : Delivered} {events : List Event} {event : Event}
    (orderly : Orderly serde frame events)
    (permitted : Permitted serde frame events event.request) :
    Orderly serde frame (events ++ [event]) := by
  intro before other later split
  rcases List.eq_nil_or_concat later with rfl | ⟨rest, last, rfl⟩
  · obtain ⟨rfl, same⟩ := List.append_inj' split rfl
    rw [← List.cons.inj same |>.1]
    exact permitted
  · rw [List.concat_eq_append, ← List.cons_append, ← List.append_assoc] at split
    exact orderly before other rest (List.append_inj' split rfl).1

namespace Intake

/-- The frame of a delivery. -/
def frame? (intake : Intake) (number : Nat) : Option Delivered := intake.delivered[number]?

/-- A delivery's frame decodes to an envelope whose payload is accepted as a command. -/
def Accepts (serde : Serde) (intake : Intake) (number : Nat) (command : DeliverNotification) :
    Prop :=
  ∃ frame envelope, intake.frame? number = some frame ∧ frame.payload = .ok envelope ∧
    validate serde envelope.payload = .ok command

/-- What holds of every reachable intake. -/
structure Sound (serde : Serde) (initial : List Row) (intake : Intake) : Prop where
  /-- The database is sound. -/
  store : Store.Sound initial intake.store
  /-- A delivery in progress goes on as `handle` ensures, from the calls it has made. -/
  busy : ∀ replica delivery, intake.replicas replica = some delivery →
    intake.frame? delivery.number = some delivery.frame ∧
      Ensures (deliveryContract serde delivery.frame) (fun _ after => SettledOnce after)
        delivery.program (intake.eventsOf delivery.number)
  /-- No two replicas handle one delivery. -/
  apart : ∀ first second (left right : Delivery), intake.replicas first = some left →
    intake.replicas second = some right → left.number = right.number → first = second
  /-- Only deliveries make calls. -/
  numbered : ∀ entry ∈ intake.trace, entry.1 < intake.delivered.length
  /-- The calls of every delivery are in order. -/
  orderly : ∀ number frame, intake.frame? number = some frame →
    Orderly serde frame (intake.eventsOf number)
  /-- A fan-out is run for a delivery whose payload was accepted as its command. -/
  owned : ∀ sid nowV7 command, intake.store.Runs sid (.fanOut nowV7 command) →
    ∃ number, (sid, number) ∈ intake.fanOuts ∧ Accepts serde intake number command
  /-- Every fan-out was called for an accepted command. -/
  accepted : ∀ entry ∈ intake.fanOuts, ∃ command, Accepts serde intake entry.2 command
  /-- A delivery waits for the session of its own fan-out. -/
  waiting : ∀ replica delivery sid, intake.replicas replica = some delivery →
    delivery.session = some sid → ∃ nowV7 command next,
      delivery.program = .call (.fanOut command) next ∧
        intake.store.Runs sid (.fanOut nowV7 command)
  /-- A fan-out that returned has created a row for each recipient. -/
  written : ∀ number command count,
    (number, (⟨.fanOut command, .ok count⟩ : Event)) ∈ intake.trace →
    ∀ recipientId ∈ command.recipientIds,
      intake.store.Created (command.sourceEventId, recipientId)
  /-- A ledger write that returned has left a row under its command id. -/
  lettered : ∀ number abandoned id,
    (number, (⟨.recordDeadLetter abandoned, .ok id⟩ : Event)) ∈ intake.trace →
    ∃ letter ∈ intake.recorded, letter.commandId = abandoned.trace.commandId
  /-- The ledger holds only what was recorded. -/
  ledger : intake.ledger ⊆ intake.recorded
  /-- A delivery that has ended was settled once. -/
  ended : ∀ number ∈ intake.ended, SettledOnce (intake.eventsOf number)
  /-- A delivery that has ended is in progress nowhere. -/
  closed : ∀ replica delivery, intake.replicas replica = some delivery →
    delivery.number ∉ intake.ended
  /-- Only deliveries end. -/
  past : ∀ number ∈ intake.ended, number < intake.delivered.length

variable {serde : Serde} {errorText : SqlxError → String} {initial : List Row}
  {intake after : Intake}

/-- Nothing has happened yet. -/
theorem start_sound (table : Notifications) : Sound serde table.rows (start table.rows) where
  store := Store.start_sound table
  busy := by simp [start]
  apart := by simp [start]
  numbered := by simp [start]
  orderly := by simp [start, frame?]
  owned := by simp [start, Store.Runs, Store.start]
  accepted := by simp [start]
  waiting := by simp [start]
  written := by simp [start]
  lettered := by simp [start]
  ledger := by simp [start]
  ended := by simp [start]
  closed := by simp [start]
  past := by simp [start]

/-- A call that returns is added to the calls of its own delivery. -/
theorem eventsOf_reply (intake : Intake) (replica : Nat) (delivery : Delivery) (event : Event)
    (program : Handler Verdict) (number : Nat) :
    (intake.reply replica delivery event program).eventsOf number =
      if number = delivery.number then intake.eventsOf number ++ [event]
      else intake.eventsOf number := by
  by_cases same : number = delivery.number
  · simp [eventsOf, reply, same]
  · have other : delivery.number ≠ number := fun equal => same equal.symm
    simp [eventsOf, reply, same, other]

/-- A delivery that has not begun has made no call. -/
theorem Sound.eventsOf_fresh (sound : Sound serde initial intake) :
    intake.eventsOf intake.delivered.length = [] := by
  simp only [eventsOf, List.map_eq_nil_iff, List.filter_eq_nil_iff, beq_iff_eq]
  intro entry member same
  have earlier := sound.numbered entry member
  omega

/-- The frames delivered so far keep their numbers. -/
theorem frame?_append {number : Nat} {frame added : Delivered}
    (found : intake.delivered[number]? = some frame) :
    (intake.delivered ++ [added])[number]? = some frame := by
  have inside : number < intake.delivered.length := by
    by_contra outside
    rw [List.getElem?_eq_none (by omega)] at found
    contradiction
  rw [List.getElem?_append_left inside, found]

/-- A delivery begins. -/
theorem Sound.receive (sound : Sound serde initial intake) {replica : Nat}
    (idle : intake.replicas replica = none) (frame : Delivered) :
    Sound serde initial (intake.receive replica frame (handle serde errorText frame)) := by
  have number_lt : ∀ other delivery, intake.replicas other = some delivery →
      delivery.number < intake.delivered.length := by
    intro other delivery found
    have numbered := (sound.busy other delivery found).1
    by_contra outside
    rw [frame?, List.getElem?_eq_none (by omega)] at numbered
    contradiction
  have cases_ : ∀ other delivery,
      (intake.receive replica frame (handle serde errorText frame)).replicas other =
        some delivery →
      (other = replica ∧ delivery = ⟨intake.delivered.length, frame,
        handle serde errorText frame, none⟩) ∨
      (other ≠ replica ∧ intake.replicas other = some delivery) := by
    intro other delivery found
    by_cases here : other = replica
    · exact Or.inl ⟨here, by simpa [Intake.receive, here] using found.symm⟩
    · exact Or.inr ⟨here, by simpa [Intake.receive, here] using found⟩
  refine ⟨sound.store, ?_, ?_, ?_, ?_, ?_, ?_, ?_, sound.written, sound.lettered, sound.ledger,
    sound.ended, ?_, ?_⟩
  · intro other delivery found
    rcases cases_ other delivery found with ⟨-, rfl⟩ | ⟨-, was⟩
    · refine ⟨by simp [frame?, Intake.receive], ?_⟩
      have none_ := sound.eventsOf_fresh
      simp only [eventsOf] at none_
      simp only [eventsOf, Intake.receive, none_]
      exact handle_ensures errorText frame
    · have old := sound.busy other delivery was
      exact ⟨frame?_append old.1, old.2⟩
  · intro first second left right one two same
    rcases cases_ first left one with ⟨rfl, rfl⟩ | ⟨apart, was⟩
    · rcases cases_ second right two with ⟨rfl, rfl⟩ | ⟨apart, was⟩
      · rfl
      · have earlier := number_lt second right was
        exact absurd same (by simp; omega)
    · rcases cases_ second right two with ⟨rfl, rfl⟩ | ⟨apart', was'⟩
      · have earlier := number_lt first left was
        exact absurd same (by simp; omega)
      · exact sound.apart first second left right was was' same
  · intro entry member
    have earlier := sound.numbered entry member
    simp only [Intake.receive, List.length_append, List.length_singleton]
    omega
  · intro number delivered found
    by_cases fresh : number = intake.delivered.length
    · subst fresh
      have none_ := sound.eventsOf_fresh
      simp only [eventsOf] at none_
      simp only [eventsOf, Intake.receive, none_]
      intro before event later split
      simp at split
    · refine sound.orderly number delivered ?_
      simp only [frame?, Intake.receive] at found ⊢
      rw [List.getElem?_append] at found
      split at found
      · exact found
      · have beyond : number - intake.delivered.length ≠ 0 := by omega
        rw [List.getElem?_singleton, if_neg beyond] at found
        contradiction
  · intro sid nowV7 command runs
    obtain ⟨number, opened, frame', envelope, found, decoded, valid⟩ :=
      sound.owned sid nowV7 command runs
    exact ⟨number, opened, frame', envelope, frame?_append found, decoded, valid⟩
  · intro entry member
    obtain ⟨command, frame', envelope, found, decoded, valid⟩ := sound.accepted entry member
    exact ⟨command, frame', envelope, frame?_append found, decoded, valid⟩
  · intro other delivery sid found waits
    rcases cases_ other delivery found with ⟨-, rfl⟩ | ⟨-, was⟩
    · contradiction
    · exact sound.waiting other delivery sid was waits
  · intro other delivery found inside
    rcases cases_ other delivery found with ⟨-, rfl⟩ | ⟨-, was⟩
    · have earlier := sound.past _ inside
      simp at earlier
    · exact sound.closed other delivery was inside
  · intro number inside
    have earlier := sound.past number inside
    simp only [Intake.receive, List.length_append, List.length_singleton]
    omega

/-- A call of a delivery returns. -/
theorem Sound.returns (sound : Sound serde initial intake) {replica : Nat} {delivery : Delivery}
    {request : IntakeCall} {next : request.Reply → Handler Verdict}
    (busy : intake.replicas replica = some delivery) (at_ : delivery.program = .call request next)
    (answer : request.Reply)
    (written : ∀ command count, (⟨request, answer⟩ : Event) = ⟨.fanOut command, .ok count⟩ →
      ∀ recipientId ∈ command.recipientIds,
        intake.store.Created (command.sourceEventId, recipientId))
    (lettered : ∀ abandoned id,
      (⟨request, answer⟩ : Event) = ⟨.recordDeadLetter abandoned, .ok id⟩ →
      ∃ letter ∈ intake.recorded, letter.commandId = abandoned.trace.commandId) :
    Sound serde initial (intake.reply replica delivery ⟨request, answer⟩ (next answer)) := by
  obtain ⟨framed, goes⟩ := sound.busy replica delivery busy
  rw [at_] at goes
  obtain ⟨permitted, later⟩ := goes
  have cases_ : ∀ other found,
      (intake.reply replica delivery ⟨request, answer⟩ (next answer)).replicas other =
        some found →
      (other = replica ∧ found = { delivery with program := next answer, session := none }) ∨
      (other ≠ replica ∧ intake.replicas other = some found ∧ found.number ≠ delivery.number) := by
    intro other found here_
    by_cases here : other = replica
    · exact Or.inl ⟨here, by simpa [Intake.reply, here] using here_.symm⟩
    · have was : intake.replicas other = some found := by simpa [Intake.reply, here] using here_
      exact Or.inr ⟨here, was, fun same => here (sound.apart _ _ _ _ was busy same)⟩
  have inTrace : ∀ {entry : Nat × Event},
      entry ∈ (intake.reply replica delivery ⟨request, answer⟩ (next answer)).trace →
      entry ∈ intake.trace ∨ entry = (delivery.number, ⟨request, answer⟩) := by
    intro entry member
    rcases List.mem_append.mp member with old | new
    · exact Or.inl old
    · exact Or.inr (List.mem_singleton.mp new)
  refine ⟨sound.store, ?_, ?_, ?_, ?_, sound.owned, sound.accepted, ?_, ?_, ?_, sound.ledger,
    ?_, ?_, sound.past⟩
  · intro other found here_
    rcases cases_ other found here_ with ⟨-, rfl⟩ | ⟨-, was, apart⟩
    · refine ⟨framed, ?_⟩
      rw [eventsOf_reply, if_pos rfl]
      exact later answer _ rfl
    · rw [eventsOf_reply, if_neg apart]
      exact sound.busy other found was
  · intro first second left right one two same
    rcases cases_ first left one with ⟨rfl, rfl⟩ | ⟨-, was, apart⟩
    · rcases cases_ second right two with ⟨rfl, rfl⟩ | ⟨-, was, apart⟩
      · rfl
      · exact absurd same.symm apart
    · rcases cases_ second right two with ⟨rfl, rfl⟩ | ⟨-, was', apart'⟩
      · exact absurd same apart
      · exact sound.apart first second left right was was' same
  · intro entry member
    rcases inTrace member with old | rfl
    · exact sound.numbered entry old
    · change delivery.number < intake.delivered.length
      by_contra outside
      rw [frame?, List.getElem?_eq_none (by omega)] at framed
      contradiction
  · intro number frame found
    have old := sound.orderly number frame found
    rw [eventsOf_reply]
    by_cases same : number = delivery.number
    · subst same
      rw [if_pos rfl]
      obtain rfl := Option.some.inj (framed.symm.trans found)
      exact old.snoc permitted
    · rw [if_neg same]
      exact old
  · intro other found sid here_ waits
    rcases cases_ other found here_ with ⟨-, rfl⟩ | ⟨-, was, -⟩
    · contradiction
    · exact sound.waiting other found sid was waits
  · intro number command count member
    rcases inTrace member with old | new
    · exact sound.written number command count old
    · exact written command count (Prod.mk.inj new).2.symm
  · intro number abandoned id member
    rcases inTrace member with old | new
    · exact sound.lettered number abandoned id old
    · exact lettered abandoned id (Prod.mk.inj new).2.symm
  · intro number inside
    have apart : number ≠ delivery.number := by
      rintro rfl
      exact sound.closed replica delivery busy inside
    rw [eventsOf_reply, if_neg apart]
    exact sound.ended number inside
  · intro other found here_ inside
    rcases cases_ other found here_ with ⟨-, rfl⟩ | ⟨-, was, -⟩
    · exact sound.closed replica delivery busy inside
    · exact sound.closed other found was inside

/-- A ledger write leaves a row under its command id, its own or an earlier one. -/
theorem Sound.record (sound : Sound serde initial intake) (letter : DeadLetter) :
    Sound serde initial (intake.record letter) ∧
      ∃ row ∈ (intake.record letter).recorded, row.commandId = letter.commandId := by
  constructor
  · refine ⟨sound.store, sound.busy, sound.apart, sound.numbered, sound.orderly, sound.owned,
      sound.accepted, sound.waiting, sound.written, ?_, ?_, sound.ended, sound.closed, sound.past⟩
    · intro number abandoned id member
      obtain ⟨row, there, same⟩ := sound.lettered number abandoned id member
      exact ⟨row, List.mem_append_left _ there, same⟩
    · intro row member
      rcases List.mem_append.mp member with old | new
      · exact List.mem_append_left _ (sound.ledger old)
      · exact List.mem_append_right _ new
  · by_cases taken : intake.ledger.any fun row => row.commandId == letter.commandId
    · obtain ⟨row, member, same⟩ := List.any_eq_true.mp taken
      exact ⟨row, List.mem_append_left _ (sound.ledger member), by simpa using same⟩
    · refine ⟨letter, List.mem_append_right _ ?_, rfl⟩
      rw [recordDeadLetter, if_neg taken]
      exact List.mem_cons_self

/-- A replica becomes idle. -/
theorem Sound.release (sound : Sound serde initial intake) (replica : Nat) (ended : List Nat)
    (done : ∀ number ∈ ended, SettledOnce (intake.eventsOf number) ∧
      ∃ delivery, intake.replicas replica = some delivery ∧ delivery.number = number) :
    Sound serde initial (intake.release replica ended) := by
  have was : ∀ {other delivery}, (intake.release replica ended).replicas other = some delivery →
      other ≠ replica ∧ intake.replicas other = some delivery := by
    intro other delivery found
    by_cases here : other = replica
    · simp [Intake.release, here] at found
    · exact ⟨here, by simpa [Intake.release, here] using found⟩
  refine ⟨sound.store, fun other delivery found => sound.busy other delivery (was found).2, ?_,
    sound.numbered, sound.orderly, sound.owned, sound.accepted,
    fun other delivery sid found => sound.waiting other delivery sid (was found).2, sound.written,
    sound.lettered, sound.ledger, ?_, ?_, ?_⟩
  · intro first second left right one two
    exact sound.apart first second left right (was one).2 (was two).2
  · intro number inside
    rcases List.mem_append.mp inside with old | new
    · exact sound.ended number old
    · exact (done number new).1
  · intro other delivery found inside
    obtain ⟨apart, there⟩ := was found
    rcases List.mem_append.mp inside with old | new
    · exact sound.closed other delivery there old
    · obtain ⟨-, mine, busy, same⟩ := done _ new
      exact apart (sound.apart other replica delivery mine there busy same.symm)
  · intro number inside
    rcases List.mem_append.mp inside with old | new
    · exact sound.past number old
    · obtain ⟨-, delivery, busy, rfl⟩ := done _ new
      have framed := (sound.busy replica delivery busy).1
      by_contra outside
      rw [frame?, List.getElem?_eq_none (by simpa [Intake.release] using outside)] at framed
      contradiction

/-- A session of the database takes a step. -/
theorem Sound.database (sound : Sound serde initial intake) {action : Store.Action}
    {store : Store} (foreign : opensFanOut action = false)
    (stepped : intake.store.step action = some store) :
    Sound serde initial { intake with store := store } where
  store := Store.sound_step sound.store stepped
  busy := sound.busy
  apart := sound.apart
  numbered := sound.numbered
  orderly := sound.orderly
  owned sid nowV7 command runs := by
    rcases Store.runs_cases stepped runs with old | ⟨now, rfl⟩
    · exact sound.owned sid nowV7 command old
    · contradiction
  accepted := sound.accepted
  waiting replica delivery sid found waits := by
    obtain ⟨nowV7, command, next, at_, runs⟩ := sound.waiting replica delivery sid found waits
    exact ⟨nowV7, command, next, at_, Store.runs_kept sound.store stepped runs⟩
  written number command count member recipientId named :=
    (sound.written number command count member recipientId named).mono
      (Store.history_grows stepped).subset
  lettered := sound.lettered
  ledger := sound.ledger
  ended := sound.ended
  closed := sound.closed
  past := sound.past

/-- A fan-out opens its session, for the command its delivery's payload was accepted as. -/
theorem Sound.openSession (sound : Sound serde initial intake) {replica sid : Nat}
    {nowV7 : Nat → Uuid} {now : DateTime} {delivery : Delivery} {command : DeliverNotification}
    {next : Except SqlxError Nat → Handler Verdict} {store : Store}
    (busy : intake.replicas replica = some delivery)
    (at_ : delivery.program = .call (.fanOut command) next)
    (begun : intake.store.step (.begin sid (.fanOut nowV7 command) now) = some store) :
    Sound serde initial (intake.openSession replica delivery sid store) := by
  obtain ⟨framed, goes⟩ := sound.busy replica delivery busy
  have accepts : Accepts serde intake delivery.number command := by
    rw [at_] at goes
    obtain ⟨-, envelope, decoded, valid⟩ := goes.1
    exact ⟨delivery.frame, envelope, framed, decoded, valid⟩
  have runs : store.Runs sid (.fanOut nowV7 command) := by
    cases Store.moves_of_step begun with
    | begin idle unused => exact Or.inl ⟨_, Store.put_sessions_self _ _ _, rfl⟩
  have cases_ : ∀ other found,
      (intake.openSession replica delivery sid store).replicas other = some found →
      (other = replica ∧ found = { delivery with session := some sid }) ∨
        intake.replicas other = some found := by
    intro other found here_
    by_cases here : other = replica
    · exact Or.inl ⟨here, by simpa [Intake.openSession, here] using here_.symm⟩
    · exact Or.inr (by simpa [Intake.openSession, here] using here_)
  -- Apart from its session, the delivery is as it was.
  have numbers : ∀ other found,
      (intake.openSession replica delivery sid store).replicas other = some found →
      ∃ was, intake.replicas other = some was ∧ was.number = found.number ∧
        was.frame = found.frame ∧ was.program = found.program := by
    intro other found here_
    rcases cases_ other found here_ with ⟨rfl, rfl⟩ | was
    · exact ⟨delivery, busy, rfl, rfl, rfl⟩
    · exact ⟨found, was, rfl, rfl, rfl⟩
  refine ⟨Store.sound_step sound.store begun, ?_, ?_, sound.numbered, sound.orderly, ?_, ?_, ?_,
    ?_, sound.lettered, sound.ledger, sound.ended, ?_, sound.past⟩
  · intro other found here_
    obtain ⟨was, there, number, frame, program⟩ := numbers other found here_
    rw [← number, ← frame, ← program]
    exact sound.busy other was there
  · intro first second left right one two same
    obtain ⟨left', there, number, -⟩ := numbers first left one
    obtain ⟨right', there', number', -⟩ := numbers second right two
    exact sound.apart first second left' right' there there' (by omega)
  · intro other nowV7' command' runs'
    rcases Store.runs_cases begun runs' with old | ⟨now', same⟩
    · obtain ⟨number, opened, accepts'⟩ := sound.owned other nowV7' command' old
      exact ⟨number, List.mem_append_left _ opened, accepts'⟩
    · simp only [Store.Action.begin.injEq, Operation.fanOut.injEq] at same
      obtain ⟨rfl, ⟨rfl, rfl⟩, rfl⟩ := same
      exact ⟨delivery.number, List.mem_append_right _ List.mem_cons_self, accepts⟩
  · intro entry member
    rcases List.mem_append.mp member with old | new
    · exact sound.accepted entry old
    · rw [List.mem_singleton.mp new]
      exact ⟨command, accepts⟩
  · intro other found sid' here_ waits
    rcases cases_ other found here_ with ⟨rfl, rfl⟩ | was
    · obtain rfl := Option.some.inj waits
      exact ⟨nowV7, command, next, at_, runs⟩
    · obtain ⟨nowV7', command', next', at_', runs'⟩ := sound.waiting other found sid' was waits
      exact ⟨nowV7', command', next', at_', Store.runs_kept sound.store begun runs'⟩
  · intro number command' count member recipientId named
    exact (sound.written number command' count member recipientId named).mono
      (Store.history_grows begun).subset
  · intro other found here_
    obtain ⟨was, there, number, -⟩ := numbers other found here_
    exact number ▸ sound.closed other was there

/-- The retention pass only takes rows off the ledger. -/
theorem Sound.purge (sound : Sound serde initial intake) (now : DateTime) :
    Sound serde initial
      { intake with ledger := deleteExpiredDeadLetters now intake.ledger } where
  store := sound.store
  busy := sound.busy
  apart := sound.apart
  numbered := sound.numbered
  orderly := sound.orderly
  owned := sound.owned
  accepted := sound.accepted
  waiting := sound.waiting
  written := sound.written
  lettered := sound.lettered
  ledger _ member := sound.ledger (List.mem_of_mem_filter member)
  ended := sound.ended
  closed := sound.closed
  past := sound.past

/-- Every step keeps the intake sound. -/
theorem sound_step {action : Action} (sound : Sound serde initial intake)
    (stepped : step serde errorText intake action = some after) : Sound serde initial after := by
  cases moves_of_step stepped with
  | deliver idle => exact sound.receive idle _
  | openFanOut busy at_ alone begun => exact sound.openSession busy at_ begun
  | @fanOutReturns replica sid delivery command next operation written busy at_ waiting
      committed =>
    refine sound.returns busy at_ (.ok written) ?_ (by simp)
    rintro command' count same recipientId named
    simp only [Event.mk.injEq, IntakeCall.fanOut.injEq] at same
    obtain ⟨rfl, -⟩ := same
    -- The session it waited for is its own, and has committed.
    obtain ⟨nowV7, owned, next', at_', runs⟩ := sound.waiting replica delivery sid busy waiting
    rw [at_] at at_'
    obtain ⟨rfl, -⟩ : command = owned ∧ True := by
      injection at_' with same
      injection same with same
      exact ⟨same, trivial⟩
    rcases runs with ⟨session, open_, -⟩ | ⟨outcome, ended⟩
    · have idle := sound.store.pending sid (by simp [open_])
      simp [committed] at idle
    · obtain ⟨rfl, rfl⟩ := Prod.mk.inj (Option.some.inj (committed.symm.trans ended))
      exact sound.store.delivered sid nowV7 command _ committed recipientId named
  | fanOutFails busy at_ =>
    refine sound.returns busy at_ _ ?_ (by simp)
    intro command count same
    simp only [Event.mk.injEq, IntakeCall.fanOut.injEq] at same
    obtain ⟨rfl, same⟩ := same
    simp at same
  | @record replica id now delivery abandoned next recorded busy at_ answered =>
    obtain ⟨recording, row, member, same⟩ := sound.record (.of id now abandoned)
    refine recording.returns busy at_ _ (by simp) ?_
    intro abandoned' id' equal
    simp only [Event.mk.injEq, IntakeCall.recordDeadLetter.injEq] at equal
    obtain ⟨rfl, -⟩ := equal
    exact ⟨row, member, same⟩
  | @recordLost replica id now error delivery abandoned next busy at_ =>
    refine (sound.record (.of id now abandoned)).1.returns busy at_ _ (by simp) ?_
    intro abandoned' id' equal
    simp only [Event.mk.injEq, IntakeCall.recordDeadLetter.injEq] at equal
    obtain ⟨rfl, same⟩ := equal
    simp at same
  | recordFails busy at_ =>
    refine sound.returns busy at_ _ (by simp) ?_
    intro abandoned id equal
    simp only [Event.mk.injEq, IntakeCall.recordDeadLetter.injEq] at equal
    obtain ⟨rfl, same⟩ := equal
    simp at same
  | settle busy at_ => exact sound.returns busy at_ _ (by simp) (by simp)
  | count busy at_ => exact sound.returns busy at_ _ (by simp) (by simp)
  | @finish replica delivery verdict busy at_ =>
    refine sound.release replica [delivery.number] ?_
    intro number member
    rw [List.mem_singleton.mp member]
    have goes := (sound.busy replica delivery busy).2
    rw [at_] at goes
    exact ⟨goes, delivery, busy, rfl⟩
  | crash => exact sound.release _ [] (by simp)
  | purge => exact sound.purge _
  | database foreign moved => exact sound.database foreign moved

/-- An intake reached from a table by any run. -/
def Reachable (serde : Serde) (errorText : SqlxError → String) (table : Notifications)
    (intake : Intake) : Prop :=
  Reaches (step serde errorText) anyStep (start table.rows) intake

/-- Every reachable intake is sound. -/
theorem Reachable.sound {table : Notifications}
    (reached : Reachable serde errorText table intake) : Sound serde table.rows intake :=
  Reaches.invariant reached (fun _ _ _ sound _ stepped => sound_step sound stepped)
    (start_sound table)

end Intake

end SvcNotifier
