import SvcNotifier.Intake.Counter
import Mathlib.Algebra.GroupWithZero.Nat

/-!
# What the intake shows an operator

`consume` folds the verdicts of one process's deliveries into the outage gauge and the other
counters. A verdict is a word of the code's own; what it stands for are the calls the delivery
made. Each delivery takes one of a handful of courses, and the courses say what the gauge and
the counters of a process have to do with storage, with the ledger and with the broker.
-/

namespace SvcNotifier

open Library Program

/-- `transient_streak_after`. -/
def transientStreakAfter (verdict : Verdict) (streak : Nat) : Nat :=
  match verdict with
  | .notAttempted => streak
  | .written => 0
  | .failed .poison => 0
  | .failed .transient => streak + 1

/-! ## The courses of a delivery -/

/-- The verdict of what `handle` settles on. -/
def verdictOf : Option FailureClass → Verdict
  | none => .written
  | some class_ => .failed class_

/-- What `abandon` does: it records the command and counts it, finds it recorded, or fails to
record it. -/
inductive Answers (abandoned : Abandoned) : FailureClass → List Event → Prop where
  /-- It has recorded the command, and counted it. -/
  | recorded (id : Uuid) : Answers abandoned .poison
      [⟨.recordDeadLetter abandoned, .ok (some id)⟩, ⟨.count (.deadLetters abandoned.reason), ()⟩]
  /-- It has found the command recorded. -/
  | known : Answers abandoned .poison [⟨.recordDeadLetter abandoned, .ok none⟩]
  /-- It has failed to, and counted that. -/
  | failed (error : SqlxError) : Answers abandoned .transient
      [⟨.recordDeadLetter abandoned, .error error⟩, ⟨.count .ledgerFailures, ()⟩]

section

variable (serde : Serde) (errorText : SqlxError → String)

/-- What `handle` does with an envelope before it settles. -/
inductive Attempts (delivered : Delivered) (envelope : IntegrationCommand) :
    Option FailureClass → List Event → Prop where
  /-- The fan-out has returned. -/
  | written {command : DeliverNotification} (valid : validate serde envelope.payload = .ok command)
      (rows : Nat) : Attempts delivered envelope none [⟨.fanOut command, .ok rows⟩]
  /-- The fan-out has failed in passing. -/
  | held {command : DeliverNotification} {error : SqlxError}
      (valid : validate serde envelope.payload = .ok command)
      (transient : classify error = .transient) :
      Attempts delivered envelope (some .transient) [⟨.fanOut command, .error error⟩]
  /-- The payload is refused, and the command abandoned. -/
  | refused {rejection : Rejection} {failure : FailureClass} {events : List Event}
      (invalid : validate serde envelope.payload = .error rejection)
      (answers : Answers
        (refused serde (.of envelope) rejection envelope.payload delivered.deliveredCount)
        failure events) : Attempts delivered envelope (some failure) events
  /-- The fan-out has failed for good, and the command is abandoned. -/
  | rejected {command : DeliverNotification} {error : SqlxError} {abandoned : Abandoned}
      {failure : FailureClass} {events : List Event}
      (valid : validate serde envelope.payload = .ok command)
      (poison : classify error = .poison) (reason : abandoned.reason = .storageRejected)
      (answers : Answers abandoned failure events) :
      Attempts delivered envelope (some failure) (⟨.fanOut command, .error error⟩ :: events)

/-- The courses of a delivery: the calls it makes, with their replies, and its verdict. -/
inductive DeliveryCourse (delivered : Delivered) : Verdict → List Event → Prop where
  /-- The envelope was read, and an attempt made. -/
  | attempted {envelope : IntegrationCommand} {failure : Option FailureClass}
      {events : List Event} (decoded : delivered.payload = .ok envelope)
      (attempts : Attempts serde delivered envelope failure events) (landed : Bool) :
      DeliveryCourse delivered (verdictOf failure)
        (events ++ [⟨.settle (settlementOf (outcomeFor failure)), landed⟩])
  /-- The frame was not read. -/
  | undecodable {error : String} (unreadable : delivered.payload = .error error) (landed : Bool) :
      DeliveryCourse delivered .notAttempted
        [⟨.count .undecodableDeliveries, ()⟩,
          ⟨.settle (settlementOf outcomeForUndecodableEnvelope), landed⟩]

end

/-- The calls of a delivery, recorded as they return; the counter of the outage is left to
`observe`. -/
def recorded : Contract IntakeCall IntakeCall.Reply (List Event) where
  requires request _ := request ≠ .count .transientFailures
  allows request events reply after := after = events ++ [⟨request, reply⟩]

variable {serde : Serde} {errorText : SqlxError → String}

/-- The rule for a call. -/
theorem ensures_recorded {α : Type} {post : α → List Event → Prop} {events : List Event}
    (request : IntakeCall) {next : request.Reply → Handler α}
    (allowed : request ≠ .count .transientFailures)
    (later : ∀ reply, Ensures recorded post (next reply) (events ++ [⟨request, reply⟩])) :
    Ensures recorded post (invoke request >>= next) events := by
  refine ⟨allowed, ?_⟩
  rintro reply _ rfl
  exact later reply

/-- `abandon` does one of its three things. -/
theorem abandon_answers (abandoned : Abandoned) (events : List Event) :
    Ensures recorded
      (fun failure after => ∃ added, after = events ++ added ∧ Answers abandoned failure added)
      (abandon abandoned) events := by
  refine ensures_recorded _ (by simp) fun reply => ?_
  match reply with
  | .ok (some id) =>
    refine ensures_recorded _ (by simp) fun _ => ⟨_, ?_, .recorded id⟩
    rw [List.append_assoc]
    rfl
  | .ok none => exact ⟨_, rfl, .known⟩
  | .error error =>
    refine ensures_recorded _ (by simp) fun _ => ⟨_, ?_, .failed error⟩
    rw [List.append_assoc]
    rfl

/-- What is done with an envelope. -/
theorem attempt_attempts (delivered : Delivered) (envelope : IntegrationCommand) :
    Ensures recorded (fun failure after => Attempts serde delivered envelope failure after)
      (attempt serde errorText envelope.payload (.of envelope) delivered.deliveredCount) [] := by
  unfold attempt
  split
  · rename_i rejection invalid
    apply Ensures.bind
    apply (abandon_answers _ []).mono
    rintro failure after ⟨added, rfl, answers⟩
    exact .refused invalid answers
  · rename_i command valid
    refine ensures_recorded _ (by simp) fun reply => ?_
    cases reply with
    | ok rows => exact .written valid rows
    | error error =>
      dsimp only [triage]
      cases class_ : classify error with
      | transient => exact .held valid class_
      | poison =>
        apply Ensures.bind
        apply (abandon_answers _ _).mono
        rintro failure after ⟨added, rfl, answers⟩
        exact .rejected valid class_ rfl answers

/-- Every delivery takes one of its courses. -/
theorem handle_course (delivered : Delivered) :
    Ensures recorded (DeliveryCourse serde delivered) (handle serde errorText delivered) [] := by
  unfold handle
  split
  · rename_i error unreadable
    refine ensures_recorded _ (by simp) fun _ => ?_
    exact ensures_recorded _ (by simp) fun landed => .undecodable unreadable landed
  · rename_i envelope decoded
    apply Ensures.bind
    apply (attempt_attempts delivered envelope).mono
    intro failure after attempts
    refine ensures_recorded _ (by simp) fun landed => ?_
    cases failure with
    | none => exact .attempted decoded attempts landed
    | some class_ => exact .attempted decoded attempts landed

/-! ## What the courses have in them -/

namespace Event

/-- A reply for which the delivery is held: a write that a retry may do, or a ledger write that
failed. -/
def fails : Event → Bool
  | ⟨.fanOut _, .error error⟩ => classify error == .transient
  | ⟨.recordDeadLetter _, .error _⟩ => true
  | _ => false

/-- A ledger write that failed. -/
def misses : Event → Bool
  | ⟨.recordDeadLetter _, .error _⟩ => true
  | _ => false

/-- An ack or a term. -/
def closes : Event → Bool
  | ⟨.settle .ack, _⟩ => true
  | ⟨.settle .term, _⟩ => true
  | _ => false

/-- An increment of the counter. -/
def counts (counter : Counter) : Event → Bool
  | ⟨.count other, _⟩ => other == counter
  | _ => false

end Event

/-- A frame whose envelope cannot be read. -/
def Delivered.unreadable (delivered : Delivered) : Bool :=
  match delivered.payload with
  | .ok _ => false
  | .error _ => true

variable {delivered : Delivered} {verdict : Verdict} {events : List Event}

/-- What abandoning a command has in it. -/
theorem Answers.shows {abandoned : Abandoned} {failure : FailureClass}
    (answers : Answers abandoned failure events) :
    events.any Event.fails = (failure == .transient) ∧
      events.any Event.misses = (failure == .transient) ∧
      events.countP (Event.counts .ledgerFailures) = (if failure = .transient then 1 else 0) ∧
      events.countP (Event.counts .undecodableDeliveries) = 0 ∧
      events.any Event.closes = false := by
  cases answers with
  | recorded id => exact ⟨rfl, rfl, rfl, rfl, rfl⟩
  | known => exact ⟨rfl, rfl, rfl, rfl, rfl⟩
  | failed error => exact ⟨rfl, rfl, rfl, rfl, rfl⟩

/-- What the calls before a settlement have in them. -/
theorem Attempts.shows {envelope : IntegrationCommand} {failure : Option FailureClass}
    (attempts : Attempts serde delivered envelope failure events) :
    events.any Event.fails = (failure == some .transient) ∧
      events.countP (Event.counts .ledgerFailures) =
        (if events.any Event.misses then 1 else 0) ∧
      events.countP (Event.counts .undecodableDeliveries) = 0 ∧
      events.any Event.closes = false := by
  cases attempts with
  | written valid rows => exact ⟨rfl, rfl, rfl, rfl⟩
  | held valid transient => exact ⟨by simp [Event.fails, transient], rfl, rfl, rfl⟩
  | refused invalid answers =>
    obtain ⟨fails, misses, ledger, undecodable, closes⟩ := answers.shows
    refine ⟨by rw [fails]; rfl, ?_, undecodable, closes⟩
    rw [ledger, misses]
    simp
  | rejected valid poison reason answers =>
    obtain ⟨fails, misses, ledger, undecodable, closes⟩ := answers.shows
    refine ⟨?_, ?_, ?_, ?_⟩
    · rw [List.any_cons, fails]
      simp [Event.fails, poison]
    · rw [List.countP_cons, List.any_cons, ledger, misses]
      simp [Event.counts, Event.misses]
    · rw [List.countP_cons, undecodable]
      rfl
    · rw [List.any_cons, closes]
      rfl

/-- A delivery fails at a call exactly when its verdict is transient. -/
theorem DeliveryCourse.fails (course : DeliveryCourse serde delivered verdict events) :
    events.any Event.fails = (verdict == .failed .transient) := by
  cases course with
  | undecodable unreadable landed => rfl
  | @attempted envelope failure before decoded attempts landed =>
    rw [List.any_append, attempts.shows.1]
    match failure with
    | none => rfl
    | some .transient => rfl
    | some .poison => rfl

/-- A delivery is acked or terminated exactly when it is not held. -/
theorem DeliveryCourse.closes (course : DeliveryCourse serde delivered verdict events) :
    events.any Event.closes = (verdict == .written || verdict == .failed .poison) := by
  cases course with
  | undecodable unreadable landed => rfl
  | @attempted envelope failure before decoded attempts landed =>
    rw [List.any_append, attempts.shows.2.2.2]
    match failure with
    | none => rfl
    | some .transient => rfl
    | some .poison => rfl

/-- A delivery counts its failed ledger write, if it has one. -/
theorem DeliveryCourse.ledger (course : DeliveryCourse serde delivered verdict events) :
    events.countP (Event.counts .ledgerFailures) = if events.any Event.misses then 1 else 0 := by
  cases course with
  | undecodable unreadable landed => rfl
  | @attempted envelope failure before decoded attempts landed =>
    rw [List.countP_append, List.any_append, attempts.shows.2.1]
    simp [Event.counts, Event.misses]

/-- A delivery counts itself when its envelope cannot be read. -/
theorem DeliveryCourse.unreadable (course : DeliveryCourse serde delivered verdict events) :
    events.countP (Event.counts .undecodableDeliveries) =
      if delivered.unreadable then 1 else 0 := by
  cases course with
  | undecodable unreadable landed =>
    rw [Delivered.unreadable, unreadable]
    rfl
  | @attempted envelope failure before decoded attempts landed =>
    rw [List.countP_append, attempts.shows.2.2.1, Delivered.unreadable, decoded]
    rfl

/-! ## The streak -/

/-- The streak after some verdicts. -/
def streakOf (verdicts : List Verdict) : Nat :=
  verdicts.foldl (fun streak verdict => transientStreakAfter verdict streak) 0

/-- One more verdict. -/
theorem streakOf_snoc (verdicts : List Verdict) (verdict : Verdict) :
    streakOf (verdicts ++ [verdict]) = transientStreakAfter verdict (streakOf verdicts) := by
  simp [streakOf]

/-- The streak counts the transient verdicts since the last one that ends a streak. -/
theorem streakOf_spec {α : Type} (verdict : α → Verdict) (entries : List α) :
    ∃ earlier recent, entries = earlier ++ recent ∧
      streakOf (entries.map verdict) =
        recent.countP (fun entry => verdict entry == .failed .transient) ∧
      (∀ entry ∈ recent, verdict entry = .failed .transient ∨ verdict entry = .notAttempted) ∧
      (earlier = [] ∨ ∃ before last, earlier = before ++ [last] ∧
        (verdict last = .written ∨ verdict last = .failed .poison)) := by
  induction entries using List.reverseRecOn with
  | nil => exact ⟨[], [], rfl, rfl, by simp, Or.inl rfl⟩
  | append_singleton entries entry ih =>
    obtain ⟨earlier, recent, split, streak, recently, ended⟩ := ih
    rw [List.map_append, List.map_singleton, streakOf_snoc, streak]
    have resets : verdict entry = .written ∨ verdict entry = .failed .poison →
        transientStreakAfter (verdict entry)
            (recent.countP fun entry => verdict entry == .failed .transient) = 0 →
        ∃ earlier' recent', entries ++ [entry] = earlier' ++ recent' ∧
          transientStreakAfter (verdict entry)
              (recent.countP fun entry => verdict entry == .failed .transient) =
            recent'.countP (fun entry => verdict entry == .failed .transient) ∧
          (∀ entry ∈ recent', verdict entry = .failed .transient ∨
            verdict entry = .notAttempted) ∧
          (earlier' = [] ∨ ∃ before last, earlier' = before ++ [last] ∧
            (verdict last = .written ∨ verdict last = .failed .poison)) := by
      intro ends zero
      exact ⟨entries ++ [entry], [], (List.append_nil _).symm, zero, by simp,
        Or.inr ⟨entries, entry, rfl, ends⟩⟩
    have extends_ : verdict entry = .failed .transient ∨ verdict entry = .notAttempted →
        ∀ other ∈ recent ++ [entry],
          verdict other = .failed .transient ∨ verdict other = .notAttempted := by
      intro kept other member
      rcases List.mem_append.mp member with old | new
      · exact recently other old
      · rw [List.mem_singleton.mp new]
        exact kept
    cases is : verdict entry with
    | written => exact is ▸ resets (Or.inl is) (by rw [is]; rfl)
    | notAttempted =>
      refine ⟨earlier, recent ++ [entry], by rw [split, List.append_assoc], ?_,
        extends_ (Or.inr is), ended⟩
      simp [is, transientStreakAfter]
    | failed class_ =>
      cases class_ with
      | poison => exact is ▸ resets (Or.inr is) (by rw [is]; rfl)
      | transient =>
        refine ⟨earlier, recent ++ [entry], by rw [split, List.append_assoc], ?_,
          extends_ (Or.inl is), ended⟩
        simp [is, transientStreakAfter]

/-! ## One process and what it shows -/

/-- The intake, with what one process has shown since it started. -/
structure Gauged where
  /-- The replicas, the database and the ledger. -/
  intake : Intake
  /-- `transient_streak`, which `notifier_intake_consecutive_transient_failures` is set to. -/
  streak : Nat
  /-- The counters that have no label. -/
  counted : Counter → Nat
  /-- The deliveries it has run to their end, with their verdicts. -/
  ended : List (Nat × Verdict)

namespace Gauged

/-- A process that has just started. -/
def fresh (intake : Intake) : Gauged :=
  { intake := intake, streak := 0, counted := fun _ => 0, ended := [] }

/-- `increment(1)`. -/
def increment (gauged : Gauged) (counter : Counter) : Gauged :=
  { gauged with
    counted := Function.update gauged.counted counter (gauged.counted counter + 1) }

/-- `observe`, once a delivery has returned its verdict. -/
def observe (gauged : Gauged) (number : Nat) (verdict : Verdict) : Gauged :=
  let counted :=
    if verdict = .failed .transient then gauged.increment .transientFailures else gauged
  { counted with
    streak := transientStreakAfter verdict gauged.streak
    ended := gauged.ended ++ [(number, verdict)] }

/-- What a step of the intake shows of a process. -/
def shows (process : Nat) (gauged : Gauged) (action : Intake.Action) : Gauged :=
  match action with
  | .count replica =>
    if replica = process then match gauged.intake.asks process with
      | some (.count counter) => gauged.increment counter
      | _ => gauged
    else gauged
  | .finish replica =>
    if replica = process then match gauged.intake.replicas process with
      | some delivery => match delivery.program with
        | .done verdict => gauged.observe delivery.number verdict
        | _ => gauged
      | none => gauged
    else gauged
  | .crash replica => if replica = process then fresh gauged.intake else gauged
  | _ => gauged

/-- One step of the intake, with what a process shows. -/
def step (serde : Serde) (errorText : SqlxError → String) (process : Nat) (gauged : Gauged)
    (action : Intake.Action) : Option Gauged :=
  (Intake.step serde errorText gauged.intake action).map fun after =>
    { gauged.shows process action with intake := after }

/-- How often the calls of some deliveries have incremented a counter. -/
def increments (intake : Intake) (counter : Counter) (numbers : List Nat) : Nat :=
  (numbers.map fun number => (intake.eventsOf number).countP (Event.counts counter)).sum

/-- The delivery that a process is handling. -/
def current (intake : Intake) (process : Nat) : List Nat :=
  ((intake.replicas process).map Delivery.number).toList

/-- What a process shows is what its deliveries have done. -/
structure Kept (serde : Serde) (process : Nat) (gauged : Gauged) : Prop where
  /-- The gauge is how many of the last deliveries in a row have failed in passing. -/
  streak : gauged.streak = streakOf (gauged.ended.map Prod.snd)
  /-- That counter counts the deliveries that have failed in passing. -/
  failures : gauged.counted .transientFailures =
    gauged.ended.countP fun entry => entry.2 == .failed .transient
  /-- The others count the calls of the deliveries. -/
  counted : ∀ counter, counter ≠ .transientFailures → gauged.counted counter =
    increments gauged.intake counter
      (gauged.ended.map Prod.fst ++ current gauged.intake process)
  /-- Every delivery that has ended has run one of the courses. -/
  courses : ∀ entry ∈ gauged.ended, entry.1 ∈ gauged.intake.ended ∧
    ∃ frame, gauged.intake.frame? entry.1 = some frame ∧
      DeliveryCourse serde frame entry.2 (gauged.intake.eventsOf entry.1)
  /-- The delivery under way will run one. -/
  busy : ∀ delivery, gauged.intake.replicas process = some delivery →
    Ensures recorded (DeliveryCourse serde delivery.frame) delivery.program
      (gauged.intake.eventsOf delivery.number)

variable {process : Nat} {gauged : Gauged} {initial : List Row}

/-- A process that has just started has shown nothing. -/
theorem fresh_kept {intake : Intake} (idle : intake.replicas process = none) :
    Kept serde process (fresh intake) where
  streak := rfl
  failures := rfl
  counted counter _ := by
    simp [fresh, increments, current, idle]
  courses entry member := by contradiction
  busy delivery busy := by
    have busy : intake.replicas process = some delivery := busy
    rw [idle] at busy
    contradiction

/-- What leaves the process and its deliveries alone. -/
theorem Kept.aside {after : Intake} (kept : Kept serde process gauged)
    (same : after.replicas process = gauged.intake.replicas process)
    (ended : gauged.intake.ended ⊆ after.ended)
    (frames : ∀ number frame, gauged.intake.frame? number = some frame →
      after.frame? number = some frame)
    (events : ∀ number ∈ gauged.ended.map Prod.fst ++ current gauged.intake process,
      after.eventsOf number = gauged.intake.eventsOf number) :
    Kept serde process { gauged with intake := after } where
  streak := kept.streak
  failures := kept.failures
  counted counter other := by
    show gauged.counted counter = _
    rw [kept.counted counter other, current, current, same]
    refine congrArg List.sum (List.map_congr_left ?_)
    intro number member
    rw [events number member]
  courses entry member := by
    obtain ⟨wasEnded, frame, found, course⟩ := kept.courses entry member
    refine ⟨ended wasEnded, frame, frames _ _ found, ?_⟩
    show DeliveryCourse serde frame entry.2 (after.eventsOf entry.1)
    rw [events _ (List.mem_append_left _ (List.mem_map_of_mem member))]
    exact course
  busy delivery busy := by
    have busy : gauged.intake.replicas process = some delivery := same ▸ busy
    have handling : delivery.number ∈ current gauged.intake process := by simp [current, busy]
    show Ensures _ _ _ (after.eventsOf delivery.number)
    rw [events _ (List.mem_append_right _ handling)]
    exact kept.busy delivery busy

/-- A delivery in progress is none of those that the process has ended. -/
theorem Kept.unended (kept : Kept serde process gauged)
    (sound : Intake.Sound serde initial gauged.intake) {replica : Nat} {delivery : Delivery}
    (busy : gauged.intake.replicas replica = some delivery) :
    delivery.number ∉ gauged.ended.map Prod.fst := by
  intro member
  obtain ⟨entry, isEntry, same⟩ := List.mem_map.mp member
  have ended := (kept.courses entry isEntry).1
  rw [same] at ended
  exact sound.closed replica delivery busy ended

/-- A call of another replica returns. -/
theorem Kept.replied (kept : Kept serde process gauged)
    (sound : Intake.Sound serde initial gauged.intake) {replica : Nat} {delivery : Delivery}
    (busy : gauged.intake.replicas replica = some delivery) (other : replica ≠ process)
    (event : Event) (program : Handler Verdict) :
    Kept serde process
      { gauged with intake := gauged.intake.reply replica delivery event program } := by
  refine kept.aside (Function.update_of_ne (Ne.symm other) _ _) (List.Subset.refl _)
    (fun _ _ found => found) ?_
  intro number member
  rw [Intake.eventsOf_reply, if_neg]
  rintro rfl
  rcases List.mem_append.mp member with past | now
  · exact kept.unended sound busy past
  · rw [current, Option.mem_toList, Option.map_eq_some_iff] at now
    obtain ⟨own, handling, same⟩ := now
    exact other (sound.apart replica process delivery own busy handling same.symm)

/-- The increments of some deliveries, with one more. -/
theorem increments_snoc (intake : Intake) (counter : Counter) (numbers : List Nat) (number : Nat) :
    increments intake counter (numbers ++ [number]) =
      increments intake counter numbers +
        (intake.eventsOf number).countP (Event.counts counter) := by
  simp [increments]

/-- A call of the process returns. -/
theorem Kept.returned (kept : Kept serde process gauged)
    (sound : Intake.Sound serde initial gauged.intake) {delivery : Delivery}
    {request : IntakeCall} {next : request.Reply → Handler Verdict}
    (busy : gauged.intake.replicas process = some delivery)
    (at_ : delivery.program = .call request next) (reply : request.Reply)
    {counted : Counter → Nat}
    (held : counted .transientFailures = gauged.counted .transientFailures)
    (counts : ∀ counter, counter ≠ .transientFailures → counted counter =
      gauged.counted counter + if Event.counts counter ⟨request, reply⟩ then 1 else 0) :
    Kept serde process { gauged with
      intake := gauged.intake.reply process delivery ⟨request, reply⟩ (next reply)
      counted := counted } := by
  have past : ∀ number ∈ gauged.ended.map Prod.fst,
      (gauged.intake.reply process delivery ⟨request, reply⟩ (next reply)).eventsOf number =
        gauged.intake.eventsOf number := by
    intro number member
    rw [Intake.eventsOf_reply, if_neg]
    rintro rfl
    exact kept.unended sound busy member
  have now : (gauged.intake.reply process delivery ⟨request, reply⟩ (next reply)).eventsOf
      delivery.number = gauged.intake.eventsOf delivery.number ++ [⟨request, reply⟩] := by
    rw [Intake.eventsOf_reply, if_pos rfl]
  have answered : (gauged.intake.reply process delivery ⟨request, reply⟩
      (next reply)).replicas process =
        some { delivery with program := next reply, session := none } :=
    Function.update_self _ _ _
  refine ⟨kept.streak, held.trans kept.failures, ?_, ?_, ?_⟩
  · intro counter other
    have was := kept.counted counter other
    have handling : current gauged.intake process = [delivery.number] := by simp [current, busy]
    have still : current (gauged.intake.reply process delivery ⟨request, reply⟩ (next reply))
        process = [delivery.number] := by
      rw [current, answered]
      rfl
    have same : increments (gauged.intake.reply process delivery ⟨request, reply⟩ (next reply))
        counter (gauged.ended.map Prod.fst) =
        increments gauged.intake counter (gauged.ended.map Prod.fst) := by
      refine congrArg List.sum (List.map_congr_left ?_)
      intro number member
      rw [past number member]
    rw [handling, increments_snoc] at was
    show counted counter = increments _ counter (_ ++ current _ process)
    rw [still, increments_snoc, same, now, List.countP_append, counts counter other, was,
      List.countP_singleton, Nat.add_assoc]
  · intro entry member
    obtain ⟨wasEnded, frame, found, course⟩ := kept.courses entry member
    refine ⟨wasEnded, frame, found, ?_⟩
    show DeliveryCourse serde frame entry.2 (Intake.eventsOf _ entry.1)
    rw [past _ (List.mem_map_of_mem member)]
    exact course
  · intro waiting isWaiting
    obtain rfl := Option.some.inj (answered.symm.trans isWaiting)
    have ensured := kept.busy delivery busy
    rw [at_] at ensured
    show Ensures _ _ (next reply) (Intake.eventsOf _ delivery.number)
    rw [now]
    exact ensured.2 reply _ rfl

/-- A call that counts nothing returns, to whichever replica. -/
theorem Kept.uncounted (kept : Kept serde process gauged)
    (sound : Intake.Sound serde initial gauged.intake) {replica : Nat} {delivery : Delivery}
    {request : IntakeCall} {next : request.Reply → Handler Verdict}
    (busy : gauged.intake.replicas replica = some delivery)
    (at_ : delivery.program = .call request next) (reply : request.Reply)
    (plain : ∀ counter, Event.counts counter ⟨request, reply⟩ = false) :
    Kept serde process { gauged with
      intake := gauged.intake.reply replica delivery ⟨request, reply⟩ (next reply) } := by
  by_cases own : replica = process
  · subst own
    refine kept.returned sound busy at_ reply rfl ?_
    intro counter _
    rw [plain counter]
    rfl
  · exact kept.replied sound busy own _ _

/-- A ledger write that takes effect shows nothing. -/
theorem Kept.landed (kept : Kept serde process gauged) (letter : DeadLetter) :
    Kept serde process { gauged with intake := gauged.intake.record letter } :=
  kept.aside rfl (List.Subset.refl _) (fun _ _ found => found) fun _ _ => rfl

/-- A delivery of the process has run to its end, and is observed. -/
theorem Kept.observed (kept : Kept serde process gauged) {delivery : Delivery} {verdict : Verdict}
    (found : gauged.intake.frame? delivery.number = some delivery.frame)
    (busy : gauged.intake.replicas process = some delivery)
    (at_ : delivery.program = .done verdict) :
    Kept serde process { gauged.observe delivery.number verdict with
      intake := gauged.intake.release process [delivery.number] } := by
  have released : (gauged.intake.release process [delivery.number]).replicas process = none :=
    Function.update_self _ _ _
  have handling : current gauged.intake process = [delivery.number] := by simp [current, busy]
  have course : DeliveryCourse serde delivery.frame verdict
      (gauged.intake.eventsOf delivery.number) := by
    have ensured := kept.busy delivery busy
    rw [at_] at ensured
    exact ensured
  refine ⟨?_, ?_, ?_, ?_, ?_⟩
  · show transientStreakAfter verdict gauged.streak = streakOf (List.map Prod.snd (_ ++ [_]))
    rw [List.map_append, List.map_singleton, streakOf_snoc, kept.streak]
  · show (gauged.observe delivery.number verdict).counted .transientFailures =
      (gauged.ended ++ [(delivery.number, verdict)]).countP _
    rw [List.countP_append, List.countP_singleton, ← kept.failures]
    by_cases fails : verdict = .failed .transient
    · simp [observe, increment, fails]
    · simp [observe, fails]
  · intro counter other
    have same : (gauged.observe delivery.number verdict).counted counter =
        gauged.counted counter := by
      by_cases fails : verdict = .failed .transient
      · simp [observe, increment, fails, other]
      · simp [observe, fails]
    have was := kept.counted counter other
    rw [handling] at was
    show (gauged.observe delivery.number verdict).counted counter =
      increments gauged.intake counter (List.map Prod.fst (_ ++ [_]) ++ current _ process)
    rw [same, was, current, released, List.map_append, List.map_singleton]
    simp
  · intro entry member
    rcases List.mem_append.mp member with past | last
    · obtain ⟨wasEnded, rest⟩ := kept.courses entry past
      exact ⟨List.mem_append_left _ wasEnded, rest⟩
    · rw [List.mem_singleton.mp last]
      exact ⟨List.mem_append_right _ (List.mem_singleton.mpr rfl), _, found, course⟩
  · intro waiting isWaiting
    have left := released.symm.trans isWaiting
    contradiction

/-- Every step keeps what the process shows to what its deliveries have done. -/
theorem kept_step {after : Gauged} {action : Intake.Action} (kept : Kept serde process gauged)
    (sound : Intake.Sound serde initial gauged.intake)
    (stepped : step serde errorText process gauged action = some after) :
    Kept serde process after := by
  obtain ⟨intake, moved, isAfter⟩ := Option.map_eq_some_iff.mp stepped
  subst isAfter
  cases Intake.moves_of_step moved with
  | @deliver replica frame idle =>
    have frames : ∀ number other, gauged.intake.frame? number = some other →
        (gauged.intake.receive replica frame (handle serde errorText frame)).frame? number =
          some other := fun _ _ found => Intake.frame?_append found
    by_cases own : replica = process
    · subst own
      refine ⟨kept.streak, kept.failures, ?_, ?_, ?_⟩
      · intro counter other
        have nothing : (gauged.intake.eventsOf gauged.intake.delivered.length).countP
            (Event.counts counter) = 0 := by
          rw [sound.eventsOf_fresh]
          rfl
        have was := kept.counted counter other
        have handling : current (gauged.intake.receive replica frame
            (handle serde errorText frame)) replica = [gauged.intake.delivered.length] := by
          simp [current, Intake.receive]
        show gauged.counted counter = increments _ counter (_ ++ current _ replica)
        rw [handling, increments_snoc]
        show _ = increments gauged.intake counter (gauged.ended.map Prod.fst) +
          (gauged.intake.eventsOf gauged.intake.delivered.length).countP _
        rw [nothing, was, current, idle]
        simp
      · intro entry member
        obtain ⟨wasEnded, other, found, course⟩ := kept.courses entry member
        exact ⟨wasEnded, other, frames _ _ found, course⟩
      · intro delivery busy
        rw [← Metered.doing busy]
        show Ensures recorded (DeliveryCourse serde frame) (handle serde errorText frame)
          (gauged.intake.eventsOf gauged.intake.delivered.length)
        rw [sound.eventsOf_fresh]
        exact handle_course frame
    · exact kept.aside (Function.update_of_ne (Ne.symm own) _ _) (List.Subset.refl _) frames
        fun _ _ => rfl
  | @openFanOut replica sid nowV7 now delivery command next store busy at_ alone begun =>
    by_cases own : replica = process
    · subst own
      have opened : (gauged.intake.openSession replica delivery sid store).replicas replica =
          some { delivery with session := some sid } := Function.update_self _ _ _
      refine ⟨kept.streak, kept.failures, ?_, kept.courses, ?_⟩
      · intro counter other
        have was := kept.counted counter other
        show gauged.counted counter = increments gauged.intake counter (_ ++ current _ replica)
        rw [was, current, current, opened, busy]
        rfl
      · intro waiting isWaiting
        obtain rfl := Option.some.inj (opened.symm.trans isWaiting)
        exact kept.busy delivery busy
    · exact kept.aside (Function.update_of_ne (Ne.symm own) _ _) (List.Subset.refl _)
        (fun _ _ found => found) fun _ _ => rfl
  | fanOutReturns busy at_ => exact kept.uncounted sound busy at_ _ fun _ => rfl
  | fanOutFails busy at_ => exact kept.uncounted sound busy at_ _ fun _ => rfl
  | @record replica id now delivery abandoned next recorded busy at_ answered =>
    exact (kept.landed _).uncounted (sound.record (.of id now abandoned)).1 busy at_ _ fun _ => rfl
  | @recordLost replica id now error delivery abandoned next busy at_ =>
    exact (kept.landed _).uncounted (sound.record (.of id now abandoned)).1 busy at_ _ fun _ => rfl
  | recordFails busy at_ => exact kept.uncounted sound busy at_ _ fun _ => rfl
  | settle busy at_ => exact kept.uncounted sound busy at_ _ fun _ => rfl
  | @count replica delivery counter next busy at_ =>
    by_cases own : replica = process
    · subst own
      have other : counter ≠ .transientFailures := by
        have ensured := kept.busy delivery busy
        rw [at_] at ensured
        rintro rfl
        exact ensured.1 rfl
      simp only [shows, if_true, Metered.asks_of_busy busy at_]
      refine kept.returned sound busy at_ () ?_ ?_
      · exact Function.update_of_ne (Ne.symm other) _ _
      · intro shown _
        show Function.update gauged.counted counter (gauged.counted counter + 1) shown =
          gauged.counted shown + if counter == shown then 1 else 0
        by_cases same : counter = shown
        · subst same
          simp
        · rw [Function.update_of_ne (Ne.symm same)]
          simp [same]
    · simp only [shows, if_neg own]
      exact kept.replied sound busy own _ _
  | @finish replica delivery verdict busy at_ =>
    by_cases own : replica = process
    · subst own
      simp only [shows, if_true, busy, at_]
      exact kept.observed (sound.busy replica delivery busy).1 busy at_
    · simp only [shows, if_neg own]
      exact kept.aside (Function.update_of_ne (Ne.symm own) _ _)
        (fun _ member => List.mem_append_left _ member) (fun _ _ found => found) fun _ _ => rfl
  | @crash replica =>
    by_cases own : replica = process
    · subst own
      simp only [shows, if_true]
      show Kept serde replica (fresh (gauged.intake.release replica []))
      exact fresh_kept (Function.update_self _ _ _)
    · simp only [shows, if_neg own]
      exact kept.aside (Function.update_of_ne (Ne.symm own) _ _)
        (fun _ member => List.mem_append_left _ member) (fun _ _ found => found) fun _ _ => rfl
  | purge =>
    exact kept.aside rfl (List.Subset.refl _) (fun _ _ found => found) fun _ _ => rfl
  | database foreign stepped =>
    exact kept.aside rfl (List.Subset.refl _) (fun _ _ found => found) fun _ _ => rfl

/-- A process, with the intake it is part of, as it is in every state of a run. -/
theorem kept_of_run {table : Notifications} {intake : Intake}
    (reached : Intake.Reachable serde errorText table intake)
    (idle : intake.replicas process = none)
    (run : Reaches (step serde errorText process) anyStep (fresh intake) gauged) :
    Intake.Sound serde table.rows gauged.intake ∧ Kept serde process gauged := by
  have keeps : ∀ (before : Gauged) (action : Intake.Action) (after : Gauged),
      Intake.Sound serde table.rows before.intake ∧ Kept serde process before →
      anyStep before action → step serde errorText process before action = some after →
      Intake.Sound serde table.rows after.intake ∧ Kept serde process after := by
    rintro before action after ⟨sound, kept⟩ - stepped
    obtain ⟨intake, moved, isAfter⟩ := Option.map_eq_some_iff.mp stepped
    refine ⟨?_, kept_step kept sound stepped⟩
    rw [← isAfter]
    exact Intake.sound_step sound moved
  exact run.invariant keeps ⟨reached.sound, fresh_kept idle⟩

/-- The calls of a delivery that the process has ended. -/
def calls (gauged : Gauged) (entry : Nat × Verdict) : List Event :=
  gauged.intake.eventsOf entry.1

/-- How often some deliveries have incremented a counter that each increments at most once. -/
theorem increments_eq_countP {intake : Intake} {counter : Counter} (entries : List (Nat × Verdict))
    (once : Nat × Verdict → Bool) (each : ∀ entry ∈ entries,
      (intake.eventsOf entry.1).countP (Event.counts counter) = if once entry then 1 else 0) :
    increments intake counter (entries.map Prod.fst) = entries.countP once := by
  induction entries with
  | nil => rfl
  | cons entry entries ih =>
    rw [List.forall_mem_cons] at each
    have rest := ih each.2
    unfold increments at rest ⊢
    rw [List.map_cons, List.map_cons, List.sum_cons, rest, each.1, List.countP_cons, Nat.add_comm]

end Gauged

/-- What the intake shows of an outage is one, and is over when it is: in every run of one process
from its start, whatever the other replicas do, while it handles no delivery. The gauge is the
number of deliveries with a failing call since the last delivery that was acked or terminated.
The counters count the deliveries it has ended with a failing call, those whose write to the
ledger failed, and those whose envelope could not be read. -/
theorem outage_is_shown (serde : Serde) (errorText : SqlxError → String) (process : Nat)
    {table : Notifications} {intake : Intake} {gauged : Gauged}
    (reached : Intake.Reachable serde errorText table intake)
    (idle : intake.replicas process = none)
    (run : Reaches (Gauged.step serde errorText process) anyStep (Gauged.fresh intake) gauged)
    (rests : gauged.intake.replicas process = none) :
    (∃ earlier recent, gauged.ended = earlier ++ recent ∧
      gauged.streak = recent.countP (fun entry => (gauged.calls entry).any Event.fails) ∧
      (∀ entry ∈ recent, (gauged.calls entry).any Event.closes = false) ∧
      (earlier = [] ∨ ∃ before last, earlier = before ++ [last] ∧
        (gauged.calls last).any Event.closes = true)) ∧
    gauged.counted .transientFailures =
      gauged.ended.countP (fun entry => (gauged.calls entry).any Event.fails) ∧
    gauged.counted .ledgerFailures =
      gauged.ended.countP (fun entry => (gauged.calls entry).any Event.misses) ∧
    gauged.counted .undecodableDeliveries =
      gauged.ended.countP (fun entry =>
        (gauged.intake.frame? entry.1).any Delivered.unreadable) := by
  obtain ⟨-, kept⟩ := Gauged.kept_of_run reached idle run
  have fails : ∀ entry ∈ gauged.ended,
      (gauged.calls entry).any Event.fails = (entry.2 == .failed .transient) := by
    intro entry member
    obtain ⟨-, frame, found, course⟩ := kept.courses entry member
    exact course.fails
  have closes : ∀ entry ∈ gauged.ended,
      (gauged.calls entry).any Event.closes =
        (entry.2 == .written || entry.2 == .failed .poison) := by
    intro entry member
    obtain ⟨-, frame, found, course⟩ := kept.courses entry member
    exact course.closes
  have counted : ∀ counter, counter ≠ .transientFailures →
      gauged.counted counter =
        Gauged.increments gauged.intake counter (gauged.ended.map Prod.fst) := by
    intro counter other
    rw [kept.counted counter other, Gauged.current, rests, Option.map_none, Option.toList_none,
      List.append_nil]
  refine ⟨?_, ?_, ?_, ?_⟩
  · obtain ⟨earlier, recent, split, streak, recently, begun⟩ :=
      streakOf_spec Prod.snd gauged.ended
    refine ⟨earlier, recent, split, ?_, ?_, ?_⟩
    · rw [kept.streak, streak]
      refine List.countP_congr fun entry member => ?_
      rw [fails entry (split ▸ List.mem_append_right _ member)]
    · intro entry member
      rw [closes entry (split ▸ List.mem_append_right _ member)]
      rcases recently entry member with is | is
      · rw [is]
        rfl
      · rw [is]
        rfl
    · rcases begun with none_ | ⟨before, last, isLast, ends⟩
      · exact Or.inl none_
      · refine Or.inr ⟨before, last, isLast, ?_⟩
        rw [closes last (by rw [split, isLast]; simp)]
        rcases ends with is | is
        · rw [is]
          rfl
        · rw [is]
          rfl
  · rw [kept.failures]
    refine List.countP_congr fun entry member => ?_
    rw [fails entry member]
  · rw [counted _ (by simp)]
    apply Gauged.increments_eq_countP
    intro entry member
    obtain ⟨-, frame, found, course⟩ := kept.courses entry member
    exact course.ledger
  · rw [counted _ (by simp)]
    apply Gauged.increments_eq_countP
    intro entry member
    obtain ⟨-, frame, found, course⟩ := kept.courses entry member
    rw [found]
    exact course.unreadable

/-- A frame that is not an envelope. -/
def sampleGarbled : Delivered := { payload := .error "", deliveredCount := none }

/-- One step, with what replica 0 shows. -/
def sampleGaugedStep : Gauged → Intake.Action → Option Gauged :=
  Gauged.step sampleSerde (fun _ => "") 0

/-- The ledger answers the first delivery and fails the third and the fourth; the second cannot
be read. -/
def sampleLedgerOutage : List Intake.Action :=
  [.deliver 0 sampleRefusedFrame, .record 0 (sampleId 7) ⟨0⟩, .count 0, .settle 0 false, .finish 0,
    .deliver 0 sampleGarbled, .count 0, .settle 0 true, .finish 0,
    .deliver 0 sampleRefusedFrame, .recordFails 0 (.other ""), .count 0, .settle 0 true, .finish 0,
    .deliver 0 sampleRefusedFrame, .recordFails 0 (.other ""), .count 0, .settle 0 true, .finish 0]

/-- The process after its deliveries. -/
def sampleShown : Gauged :=
  (play sampleGaugedStep (Gauged.fresh (Intake.start [])) sampleLedgerOutage).get (by decide)

/-- The gauge stands at two. -/
theorem outage_is_shown_sample :
    sampleShown.streak = 2 ∧ sampleShown.counted .ledgerFailures =
      sampleShown.ended.countP (fun entry => (sampleShown.calls entry).any Event.misses) := by
  have reached : Intake.Reachable sampleSerde (fun _ => "") Notifications.empty (Intake.start []) :=
    ⟨[], .refl _⟩
  have run : Reaches sampleGaugedStep anyStep (Gauged.fresh (Intake.start [])) sampleShown :=
    reaches_of_play (Option.some_get _).symm
  exact ⟨by decide, (outage_is_shown sampleSerde (fun _ => "") 0 reached rfl run rfl).2.2.1⟩

end SvcNotifier
