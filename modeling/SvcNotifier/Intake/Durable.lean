import SvcNotifier.Intake.Ledger
import SvcNotifier.Intake.Provenance
import SvcNotifier.Library.Fairness

/-!
# The durable behind the intake

The commands wait on a stream. The durable hands a message to an idle replica as often as it
likes, as long as no ack and no term of it has arrived, and gives a replica that NAKs, crashes
or loses its settlement the same message again later. What has been settled for good is
accounted for; and once storage answers again, what has been held through an outage is settled
the next time it is delivered.
-/

namespace SvcNotifier

open Library Program

/-- An item of a list with one more at its end. -/
theorem concat_cases {α : Type} {items : List α} {last found : α} {index : Nat}
    (at_ : (items ++ [last])[index]? = some found) :
    items[index]? = some found ∨ index = items.length ∧ found = last := by
  by_cases inside : index < items.length
  · rw [List.getElem?_append_left inside] at at_
    exact Or.inl at_
  · rw [List.getElem?_append_right (by omega), List.getElem?_singleton] at at_
    split at at_
    · exact Or.inr ⟨by omega, (Option.some.inj at_).symm⟩
    · contradiction

/-- The broker does not deliver the message again. -/
def Settlement.isFinal : Settlement → Bool
  | .ack => true
  | .nak _ => false
  | .term => true

/-- The stream and its durable, with the replicas that consume it. -/
structure Durable where
  /-- The replicas, the database and the ledger. -/
  intake : Intake
  /-- The message under each sequence: an envelope, or what cannot be read as one. -/
  stream : List (Except String IntegrationCommand)
  /-- The sequence that each delivery carries. -/
  carried : List Nat
  /-- The sequences of which an ack or a term has arrived. -/
  settled : List Nat

namespace Durable

/-- Nothing has been published yet. -/
def start (rows : List Row) : Durable :=
  { intake := Intake.start rows, stream := [], carried := [], settled := [] }

/-- What happens next. -/
inductive Action where
  /-- A message arrives on the stream. -/
  | publish (message : Except String IntegrationCommand)
  /-- The durable delivers a message to a replica. -/
  | deliver (replica seq : Nat) (deliveredCount : Option Int)
  /-- Anything else that happens at the intake. -/
  | intake (action : Intake.Action)

/-- The action is a delivery, which is the durable's to make. -/
def delivers : Intake.Action → Bool
  | .deliver .. => true
  | _ => false

/-- The sequences that a step of the intake settles. -/
def settles (durable : Durable) : Intake.Action → List Nat
  | .settle replica true => match durable.intake.replicas replica with
    | none => []
    | some delivery => match delivery.program with
      | .call (.settle settlement) _ =>
        if settlement.isFinal then durable.carried[delivery.number]?.toList else []
      | _ => []
  | _ => []

section

variable (serde : Serde) (errorText : SqlxError → String)

/-- One step. -/
def step (durable : Durable) : Action → Option Durable
  | .publish message => some { durable with stream := durable.stream ++ [message] }
  | .deliver replica seq deliveredCount =>
    if durable.settled.contains seq then none
    else match durable.stream[seq]? with
      | none => none
      | some message =>
        match durable.intake.step serde errorText (.deliver replica ⟨message, deliveredCount⟩) with
        | none => none
        | some intake => some { durable with
            intake := intake
            carried := durable.carried ++ [seq] }
  | .intake action =>
    if delivers action then none
    else match durable.intake.step serde errorText action with
      | none => none
      | some intake => some { durable with
          intake := intake
          settled := durable.settled ++ durable.settles action }

/-- Everything one step can do. -/
inductive Moves (durable : Durable) : Action → Durable → Prop where
  /-- A message arrives on the stream. -/
  | publish {message : Except String IntegrationCommand} :
      Moves durable (.publish message) { durable with stream := durable.stream ++ [message] }
  /-- A message that is not settled is handed to an idle replica. -/
  | deliver {replica seq : Nat} {deliveredCount : Option Int}
      {message : Except String IntegrationCommand} {intake : Intake}
      (unsettled : seq ∉ durable.settled) (there : durable.stream[seq]? = some message)
      (moved : durable.intake.step serde errorText (.deliver replica ⟨message, deliveredCount⟩) =
        some intake) :
      Moves durable (.deliver replica seq deliveredCount)
        { durable with intake := intake, carried := durable.carried ++ [seq] }
  /-- The intake takes a step, which may settle a message. -/
  | intake {action : Intake.Action} {intake : Intake} (own : delivers action = false)
      (moved : durable.intake.step serde errorText action = some intake) :
      Moves durable (.intake action)
        { durable with intake := intake, settled := durable.settled ++ durable.settles action }

variable {serde errorText}

/-- A step does one of these things. -/
theorem moves_of_step {durable after : Durable} {action : Action}
    (stepped : durable.step serde errorText action = some after) :
    durable.Moves serde errorText action after := by
  cases action with
  | publish message =>
    obtain rfl := Option.some.inj stepped
    exact .publish
  | deliver replica seq deliveredCount =>
    simp only [step] at stepped
    split at stepped
    · contradiction
    · rename_i unsettled
      split at stepped
      · contradiction
      · rename_i message there
        split at stepped
        · contradiction
        · rename_i intake moved
          obtain rfl := Option.some.inj stepped
          exact .deliver (by simpa using unsettled) there moved
  | intake action =>
    simp only [step] at stepped
    split at stepped
    · contradiction
    · rename_i own
      split at stepped
      · contradiction
      · rename_i intake moved
        obtain rfl := Option.some.inj stepped
        exact .intake (Bool.eq_false_iff.mpr own) moved

end

/-- One `command_id`, one command: an envelope that is published under a `command_id` that is on
the stream replays its payload. The trace of a replay may be another. -/
def Identifies (durable : Durable) (action : Action) : Prop :=
  ∀ envelope, action = .publish (.ok envelope) → ∀ other, .ok other ∈ durable.stream →
    other.commandId = envelope.commandId → other.payload = envelope.payload

variable {serde : Serde} {errorText : SqlxError → String} {durable after : Durable}
  {initial : List Row}

/-- Messages of the stream under one command id carry one payload. -/
def Identified (durable : Durable) : Prop :=
  ∀ left right, .ok left ∈ durable.stream → .ok right ∈ durable.stream →
    left.commandId = right.commandId → left.payload = right.payload

/-- The message of an envelope is accounted for: its command has a row committed for each of its
recipients, or the ledger has had a row that explains why not, as it was recorded for this message
or for one that it replays. -/
def Accounted (serde : Serde) (durable : Durable) (envelope : IntegrationCommand) : Prop :=
  (∃ command, validate serde envelope.payload = .ok command ∧
    ∀ recipientId ∈ command.recipientIds,
      durable.intake.store.Created (command.sourceEventId, recipientId)) ∨
  ∃ letter ∈ durable.intake.recorded, ∃ first, .ok first ∈ durable.stream ∧
    first.commandId = envelope.commandId ∧ first.payload = envelope.payload ∧
    letter.Explains serde first

/-- What holds of every reachable durable. -/
structure Sound (serde : Serde) (initial : List Row) (durable : Durable) : Prop where
  /-- The intake is sound. -/
  intake : Intake.Sound serde initial durable.intake
  /-- The ledger tells only what explains a frame that was delivered. -/
  explaining : Intake.Explaining serde (fun _ => True) durable.intake
  /-- Messages under one command id carry one payload. -/
  identified : durable.Identified
  /-- Every delivery carries a sequence. -/
  carries : durable.carried.length = durable.intake.delivered.length
  /-- A delivery carries the message of its sequence. -/
  message : ∀ number frame seq, durable.intake.frame? number = some frame →
    durable.carried[number]? = some seq → durable.stream[seq]? = some frame.payload
  /-- What is settled is accounted for. -/
  accounts : ∀ seq ∈ durable.settled, ∃ envelope,
    durable.stream[seq]? = some (.ok envelope) ∧ Accounted serde durable envelope

/-- What is accounted for stays so. -/
theorem Accounted.mono {envelope : IntegrationCommand}
    (accounted : Accounted serde durable envelope)
    (history : durable.intake.store.history ⊆ after.intake.store.history)
    (recorded : durable.intake.recorded ⊆ after.intake.recorded)
    (stream : durable.stream ⊆ after.stream) : Accounted serde after envelope := by
  rcases accounted with ⟨command, valid, created⟩ | ⟨letter, member, first, there, explains⟩
  · exact Or.inl ⟨command, valid, fun recipientId named => (created recipientId named).mono history⟩
  · exact Or.inr ⟨letter, recorded member, first, stream there, explains⟩

/-- Nothing has been published yet. -/
theorem start_sound (table : Notifications) : Sound serde table.rows (start table.rows) where
  intake := Intake.start_sound table
  explaining := Intake.start_explaining table.rows
  identified left right there := by contradiction
  carries := rfl
  message number frame seq framed carried := by contradiction
  accounts seq member := by contradiction

/-- A delivery carries a message that is on the stream. -/
theorem Sound.carried_of_frame (sound : Sound serde initial durable) {number : Nat}
    {frame : Delivered} (framed : durable.intake.frame? number = some frame) :
    ∃ seq, durable.carried[number]? = some seq ∧
      durable.stream[seq]? = some frame.payload := by
  obtain ⟨inside, -⟩ := List.getElem?_eq_some_iff.mp framed
  have there : number < durable.carried.length := by
    rw [sound.carries]
    exact inside
  have carried : durable.carried[number]? = some durable.carried[number] :=
    List.getElem?_eq_getElem there
  exact ⟨_, carried, sound.message number frame _ framed carried⟩

/-- A ledger row under the command id of a message explains that message, or one that it
replays. -/
theorem Sound.explains (sound : Sound serde initial durable) {envelope : IntegrationCommand}
    {letter : DeadLetter} (there : .ok envelope ∈ durable.stream)
    (member : letter ∈ durable.intake.recorded) (same : letter.commandId = envelope.commandId) :
    ∃ first, .ok first ∈ durable.stream ∧ first.commandId = envelope.commandId ∧
      first.payload = envelope.payload ∧ letter.Explains serde first := by
  obtain ⟨⟨frame, delivered, first, decoded, explains⟩, -⟩ :=
    sound.explaining.told letter member
  obtain ⟨number, framed⟩ := List.getElem?_of_mem delivered
  obtain ⟨seq, -, there'⟩ := sound.carried_of_frame framed
  rw [decoded] at there'
  have onStream := List.mem_of_getElem? there'
  have one : first.commandId = envelope.commandId := explains.commandId.symm.trans same
  exact ⟨first, onStream, one, sound.identified first envelope onStream there one, explains⟩

/-- The two lists that grow at the intake. -/
theorem intake_grows {intake later : Intake} {action : Intake.Action}
    (stepped : intake.step serde errorText action = some later) :
    intake.store.history ⊆ later.store.history ∧ intake.recorded ⊆ later.recorded := by
  constructor
  · rcases Intake.store_of_step stepped with same | ⟨moved, step, -⟩
    · rw [same]
      exact List.Subset.refl _
    · exact (Store.history_grows step).subset
  · cases Intake.moves_of_step stepped with
    | record busy at_ answered => exact List.subset_append_left _ _
    | recordLost busy at_ => exact List.subset_append_left _ _
    | _ => exact List.Subset.refl _

/-- Only a delivery adds to the frames delivered. -/
theorem delivered_of_step {intake later : Intake} {action : Intake.Action}
    (own : delivers action = false) (stepped : intake.step serde errorText action = some later) :
    later.delivered = intake.delivered := by
  cases Intake.moves_of_step stepped with
  | deliver idle => contradiction
  | _ => rfl

/-- What a step of the intake settles is accounted for. -/
theorem Sound.settles (sound : Sound serde initial durable) {action : Intake.Action} {seq : Nat}
    (settled : seq ∈ durable.settles action) :
    ∃ envelope, durable.stream[seq]? = some (.ok envelope) ∧
      Accounted serde durable envelope := by
  unfold Durable.settles at settled
  split at settled
  case h_2 => contradiction
  split at settled
  case h_1 => contradiction
  rename_i replica _ delivery busy
  split at settled
  case h_2 => contradiction
  rename_i settlement next at_
  split at settled
  case isFalse => contradiction
  rename_i isFinal
  obtain ⟨framed, goes⟩ := sound.intake.busy replica delivery busy
  rw [at_] at goes
  have carried := Option.mem_toList.mp settled
  have there := sound.message _ _ _ framed carried
  cases settlement with
  | ack =>
    obtain ⟨envelope, command, decoded, valid, created⟩ := sound.intake.acked goes.1.2.1
    rw [decoded] at there
    exact ⟨envelope, there, Or.inl ⟨command, valid, created⟩⟩
  | term =>
    obtain ⟨envelope, decoded, letter, member, same⟩ := sound.intake.termed framed goes.1.2.1
    rw [decoded] at there
    exact ⟨envelope, there,
      Or.inr ⟨letter, member, sound.explains (List.mem_of_getElem? there) member same⟩⟩
  | nak delay => contradiction

/-- Every step keeps the durable sound. -/
theorem sound_step {action : Action} (sound : Sound serde initial durable)
    (identifies : Identifies durable action)
    (stepped : durable.step serde errorText action = some after) : Sound serde initial after := by
  have anyCode : ∀ intake action, Intake.FailsWithin (fun _ => True) intake action :=
    fun _ _ _ _ _ _ _ => trivial
  cases moves_of_step stepped with
  | @publish message =>
    have kept : ∀ {seq : Nat} {found : Except String IntegrationCommand},
        durable.stream[seq]? = some found → (durable.stream ++ [message])[seq]? = some found := by
      intro seq found there
      obtain ⟨inside, -⟩ := List.getElem?_eq_some_iff.mp there
      rw [List.getElem?_append_left inside]
      exact there
    refine ⟨sound.intake, sound.explaining, ?_, sound.carries, ?_, ?_⟩
    · intro left right one two same
      rcases List.mem_append.mp one with old | new
      · rcases List.mem_append.mp two with old' | new'
        · exact sound.identified left right old old' same
        · exact identifies right (congrArg _ (List.mem_singleton.mp new').symm) left old same
      · have isLeft : message = .ok left := (List.mem_singleton.mp new).symm
        rcases List.mem_append.mp two with old' | new'
        · exact (identifies left (congrArg _ isLeft) right old' same.symm).symm
        · have isRight : message = .ok right := (List.mem_singleton.mp new').symm
          rw [Except.ok.inj (isLeft.symm.trans isRight)]
    · intro number frame seq framed carried
      exact kept (sound.message number frame seq framed carried)
    · intro seq member
      obtain ⟨envelope, there, accounted⟩ := sound.accounts seq member
      exact ⟨envelope, kept there, accounted.mono (List.Subset.refl _) (List.Subset.refl _)
        (List.subset_append_left _ _)⟩
  | @deliver replica seq deliveredCount message intake unsettled there moved =>
    obtain ⟨history, recorded⟩ := intake_grows moved
    have delivered :
        intake.delivered = durable.intake.delivered ++ [⟨message, deliveredCount⟩] := by
      cases Intake.moves_of_step moved with
      | deliver idle => rfl
    refine ⟨Intake.sound_step sound.intake moved,
      Intake.explaining_step sound.explaining (anyCode _ _) moved, sound.identified, ?_, ?_, ?_⟩
    · simp [delivered, sound.carries]
    · intro number frame seq' framed carried
      rw [Intake.frame?, delivered] at framed
      rcases concat_cases framed with old | ⟨last, rfl⟩
      · obtain ⟨inside, -⟩ := List.getElem?_eq_some_iff.mp old
        rw [← sound.carries] at inside
        have carried' : durable.carried[number]? = some seq' := by
          rw [← carried, List.getElem?_append_left inside]
        exact sound.message number frame seq' old carried'
      · rcases concat_cases carried with old | ⟨-, rfl⟩
        · obtain ⟨inside, -⟩ := List.getElem?_eq_some_iff.mp old
          rw [sound.carries] at inside
          omega
        · exact there
    · intro seq' member
      obtain ⟨envelope, onStream, accounted⟩ := sound.accounts seq' member
      exact ⟨envelope, onStream, accounted.mono history recorded (List.Subset.refl _)⟩
  | @intake action intake own moved =>
    obtain ⟨history, recorded⟩ := intake_grows moved
    have delivered := delivered_of_step own moved
    refine ⟨Intake.sound_step sound.intake moved,
      Intake.explaining_step sound.explaining (anyCode _ _) moved, sound.identified, ?_, ?_, ?_⟩
    · rw [delivered]
      exact sound.carries
    · intro number frame seq framed carried
      refine sound.message number frame seq ?_ carried
      rw [Intake.frame?, ← delivered]
      exact framed
    · intro seq member
      rcases List.mem_append.mp member with old | new
      · obtain ⟨envelope, onStream, accounted⟩ := sound.accounts seq old
        exact ⟨envelope, onStream, accounted.mono history recorded (List.Subset.refl _)⟩
      · obtain ⟨envelope, onStream, accounted⟩ := sound.settles new
        exact ⟨envelope, onStream, accounted.mono history recorded (List.Subset.refl _)⟩

/-! ## Once storage answers -/

/-- The calls of a delivery at which nothing fails but a write that is refused for good: the
ledger is written, and a settlement arrives. The state says whether a final one has. -/
def answeredContract : Contract IntakeCall IntakeCall.Reply Bool where
  requires request _ := match request with
    | .settle settlement => settlement.isFinal = true
    | _ => True
  allows request issued reply after := match request, reply with
    | .fanOut _, .error error => classify error = .poison ∧ after = issued
    | .recordDeadLetter _, .error _ => False
    | .settle _, landed => landed = true ∧ after = true
    | _, _ => after = issued

/-- The rule for a call. -/
theorem ensures_answered {α : Type} {post : α → Bool → Prop} {request : IntakeCall}
    {next : request.Reply → Handler α} {issued : Bool}
    (required : answeredContract.requires request issued)
    (later : ∀ reply after, answeredContract.allows request issued reply after →
      Ensures answeredContract post (next reply) after) :
    Ensures answeredContract post (invoke request >>= next) issued :=
  ⟨required, later⟩

/-- A command that is abandoned is recorded. -/
theorem abandon_answered (abandoned : Abandoned) (issued : Bool) :
    Ensures answeredContract (fun failure after => failure = .poison ∧ after = issued)
      (abandon abandoned) issued := by
  refine ensures_answered trivial ?_
  intro reply after allowed
  cases reply with
  | error error => exact allowed.elim
  | ok recorded =>
    obtain rfl : after = issued := allowed
    cases recorded with
    | none => exact ⟨rfl, rfl⟩
    | some id =>
      refine ensures_answered trivial ?_
      rintro _ _ rfl
      exact ⟨rfl, rfl⟩

/-- Nothing that is done with an envelope comes to a hold. -/
theorem attempt_answered (payload : Value) (trace : Trace) (deliveredCount : Option Int)
    (issued : Bool) :
    Ensures answeredContract
      (fun failure after => failure ≠ some .transient ∧ after = issued)
      (attempt serde errorText payload trace deliveredCount) issued := by
  have abandons : ∀ abandoned, Ensures answeredContract
      (fun failure after => failure ≠ some .transient ∧ after = issued)
      (abandon abandoned >>= fun failure => (pure (some failure) : Handler _)) issued := by
    intro abandoned
    apply Ensures.bind
    apply (abandon_answered abandoned issued).mono
    rintro failure after ⟨rfl, rfl⟩
    exact ⟨by decide, rfl⟩
  unfold attempt
  split
  · exact abandons _
  · refine ensures_answered trivial ?_
    intro reply after allowed
    cases reply with
    | ok written =>
      obtain rfl : after = issued := allowed
      exact ⟨by simp, rfl⟩
    | error error =>
      obtain ⟨poison, rfl⟩ := allowed
      dsimp only [triage]
      cases class_ : classify error with
      | transient =>
        rw [class_] at poison
        contradiction
      | poison => exact abandons _

/-- A delivery of an envelope ends with an ack or a term that arrives. -/
theorem handle_answered {frame : Delivered} {envelope : IntegrationCommand}
    (decoded : frame.payload = .ok envelope) :
    Ensures answeredContract (fun _ issued => issued = true) (handle serde errorText frame)
      false := by
  unfold handle
  simp only [decoded]
  apply Ensures.bind
  apply (attempt_answered _ _ _ _).mono
  rintro failure after ⟨unheld, rfl⟩
  have isFinal : (settlementOf (outcomeFor failure)).isFinal = true := by
    match failure with
    | none => rfl
    | some .poison => rfl
    | some .transient => exact absurd rfl unheld
  refine ensures_answered isFinal ?_
  rintro landed after ⟨-, rfl⟩
  cases failure with
  | none => exact rfl
  | some class_ => exact rfl

/-- Nothing fails at a step, but a write that is refused for good. -/
def Unfailing : Action → Prop
  | .intake (.fanOutFails _ error) => classify error = .poison
  | .intake (.recordLost ..) => False
  | .intake (.recordFails ..) => False
  | .intake (.settle _ landed) => landed = true
  | .intake (.crash _) => False
  | _ => True

/-- What the steps of a run are like once storage has recovered. -/
def Recovered (durable : Durable) (action : Action) : Prop :=
  Identifies durable action ∧ Unfailing action

/-- A call that a replica has made returns, or its delivery ends. -/
def OfReplica (replica : Nat) : Action → Prop
  | .intake (.fanOutReturns own) => own = replica
  | .intake (.fanOutFails own _) => own = replica
  | .intake (.record own _ _) => own = replica
  | .intake (.recordLost own _ _ _) => own = replica
  | .intake (.recordFails own _) => own = replica
  | .intake (.settle own _) => own = replica
  | .intake (.count own) => own = replica
  | .intake (.finish own) => own = replica
  | _ => False

/-- A replica is in the middle of a delivery of a message; `issued` says that it has settled the
message for good. -/
structure Handling (durable : Durable) (replica number seq : Nat) (program : Handler Verdict)
    (issued : Bool) : Prop where
  /-- The replica is at this point of its delivery. -/
  busy : ∃ delivery, durable.intake.replicas replica = some delivery ∧ delivery.number = number ∧
    delivery.program = program
  /-- The delivery is of the message. -/
  carried : durable.carried[number]? = some seq
  /-- What has been settled for good has arrived. -/
  issues : issued = true → seq ∈ durable.settled

variable {replica number seq : Nat} {program : Handler Verdict} {issued : Bool} {action : Action}

/-- A replica that does not move goes on with its delivery. -/
theorem Handling.waits (handling : durable.Handling replica number seq program issued)
    (unfailing : Unfailing action) (foreign : ¬ OfReplica replica action)
    (stepped : durable.step serde errorText action = some after) :
    after.Handling replica number seq program issued := by
  obtain ⟨⟨delivery, busy, isNumber, isProgram⟩, carried, issues⟩ := handling
  -- Only the session of its fan-out may have been opened.
  have stays : ∀ {intake : Intake} {own : Nat} {other : Option Delivery},
      intake.replicas = Function.update durable.intake.replicas own other → own ≠ replica →
      intake.replicas replica = some delivery := by
    intro intake own other same apart
    rw [same, Function.update_of_ne apart.symm]
    exact busy
  cases moves_of_step stepped with
  | publish => exact ⟨⟨delivery, busy, isNumber, isProgram⟩, carried, issues⟩
  | @deliver own seq' deliveredCount message intake unsettled there moved =>
    have kept : intake.replicas replica = some delivery := by
      cases Intake.moves_of_step moved with
      | deliver idle =>
        refine stays rfl ?_
        rintro rfl
        rw [busy] at idle
        contradiction
    refine ⟨⟨delivery, kept, isNumber, isProgram⟩, ?_, issues⟩
    obtain ⟨inside, -⟩ := List.getElem?_eq_some_iff.mp carried
    rw [List.getElem?_append_left inside]
    exact carried
  | @intake action intake own moved =>
    have grown : issued = true → seq ∈ durable.settled ++ durable.settles action :=
      fun isIssued => List.mem_append_left _ (issues isIssued)
    cases Intake.moves_of_step moved with
    | deliver idle => contradiction
    | @openFanOut own' sid nowV7 now found command next store there at_ alone begun =>
      by_cases same : own' = replica
      · subst same
        obtain rfl := Option.some.inj (busy.symm.trans there)
        exact ⟨⟨_, Function.update_self _ _ _, isNumber, isProgram⟩, carried, grown⟩
      · exact ⟨⟨delivery, stays rfl same, isNumber, isProgram⟩, carried, grown⟩
    | fanOutReturns there at_ waiting committed =>
      exact ⟨⟨delivery, stays rfl foreign, isNumber, isProgram⟩, carried, grown⟩
    | fanOutFails there at_ =>
      exact ⟨⟨delivery, stays rfl foreign, isNumber, isProgram⟩, carried, grown⟩
    | record there at_ answered =>
      exact ⟨⟨delivery, stays rfl foreign, isNumber, isProgram⟩, carried, grown⟩
    | recordLost there at_ => exact unfailing.elim
    | recordFails there at_ => exact unfailing.elim
    | settle there at_ =>
      exact ⟨⟨delivery, stays rfl foreign, isNumber, isProgram⟩, carried, grown⟩
    | count there at_ =>
      exact ⟨⟨delivery, stays rfl foreign, isNumber, isProgram⟩, carried, grown⟩
    | finish there at_ =>
      exact ⟨⟨delivery, stays rfl foreign, isNumber, isProgram⟩, carried, grown⟩
    | crash => exact unfailing.elim
    | purge => exact ⟨⟨delivery, busy, isNumber, isProgram⟩, carried, grown⟩
    | database foreign' stepped' => exact ⟨⟨delivery, busy, isNumber, isProgram⟩, carried, grown⟩

/-- A call that returns is answered, and the delivery goes on. -/
theorem Handling.answers {request : IntakeCall} {next : request.Reply → Handler Verdict}
    {post : Verdict → Bool → Prop}
    (handling : durable.Handling replica number seq (.call request next) issued)
    (ensured : Ensures answeredContract post (.call request next) issued)
    (unfailing : Unfailing action) (own : OfReplica replica action)
    (stepped : durable.step serde errorText action = some after) :
    ∃ reply later, answeredContract.allows request issued reply later ∧
      after.Handling replica number seq (next reply) later := by
  obtain ⟨⟨delivery, busy, isNumber, isProgram⟩, carried, issues⟩ := handling
  cases moves_of_step stepped with
  | publish => exact own.elim
  | deliver unsettled there moved => exact own.elim
  | @intake action intake foreign moved =>
    have grown : issued = true → seq ∈ durable.settled ++ durable.settles action :=
      fun isIssued => List.mem_append_left _ (issues isIssued)
    -- What the replica is found at is the call it was at.
    have same : ∀ {found : Delivery} {asked : IntakeCall} {goesOn : asked.Reply → Handler Verdict},
        durable.intake.replicas replica = some found → found.program = .call asked goesOn →
        found = delivery ∧ Program.call request next = .call asked goesOn := by
      intro found asked goesOn there at_
      obtain rfl := Option.some.inj (busy.symm.trans there)
      exact ⟨rfl, isProgram.symm.trans at_⟩
    cases Intake.moves_of_step moved with
    | deliver idle => exact own.elim
    | openFanOut there at_ alone begun => exact own.elim
    | crash => exact own.elim
    | purge => exact own.elim
    | database foreign' stepped' => exact own.elim
    | recordLost there at_ => exact unfailing.elim
    | recordFails there at_ => exact unfailing.elim
    | @fanOutReturns replica' sid found command goesOn operation written there at_ waiting
        committed =>
      obtain rfl : replica' = replica := own
      obtain ⟨rfl, one⟩ := same there at_
      cases one
      exact ⟨.ok written, issued, rfl, ⟨_, Function.update_self _ _ _, isNumber, rfl⟩,
        carried, grown⟩
    | @fanOutFails replica' error found command goesOn there at_ =>
      obtain rfl : replica' = replica := own
      obtain ⟨rfl, one⟩ := same there at_
      cases one
      exact ⟨.error error, issued, ⟨unfailing, rfl⟩,
        ⟨_, Function.update_self _ _ _, isNumber, rfl⟩, carried, grown⟩
    | @record replica' id now found abandoned goesOn recorded there at_ answered =>
      obtain rfl : replica' = replica := own
      obtain ⟨rfl, one⟩ := same there at_
      cases one
      exact ⟨.ok recorded, issued, rfl, ⟨_, Function.update_self _ _ _, isNumber, rfl⟩,
        carried, grown⟩
    | @settle replica' landed found settlement goesOn there at_ =>
      obtain rfl : replica' = replica := own
      obtain ⟨rfl, one⟩ := same there at_
      cases one
      obtain rfl : landed = true := unfailing
      refine ⟨true, true, ⟨rfl, rfl⟩, ⟨_, Function.update_self _ _ _, isNumber, rfl⟩, carried, ?_⟩
      intro _
      have isFinal : settlement.isFinal = true := ensured.1
      have settles : durable.settles (.settle replica' true) = [seq] := by
        simp only [Durable.settles, there, at_, isFinal, if_true, isNumber, carried,
          Option.toList_some]
      rw [settles]
      exact List.mem_append_right _ List.mem_cons_self
    | @count replica' found counter goesOn there at_ =>
      obtain rfl : replica' = replica := own
      obtain ⟨rfl, one⟩ := same there at_
      cases one
      exact ⟨(), issued, rfl, ⟨_, Function.update_self _ _ _, isNumber, rfl⟩, carried, grown⟩
    | @finish replica' found verdict there at_ =>
      obtain rfl : replica' = replica := own
      obtain rfl := Option.some.inj (busy.symm.trans there)
      rw [isProgram] at at_
      contradiction

/-- A replica that has made a call can go on. -/
theorem Handling.enabled {request : IntakeCall} {next : request.Reply → Handler Verdict}
    (handling : durable.Handling replica number seq (.call request next) issued) :
    Endless.Enabled (step serde errorText) (OfReplica replica) durable := by
  obtain ⟨⟨delivery, busy, -, isProgram⟩, -, -⟩ := handling
  cases request with
  | fanOut command =>
    refine ⟨.intake (.fanOutFails replica (.other "")), rfl, ?_⟩
    simp [step, delivers, Intake.step, busy, isProgram]
  | recordDeadLetter abandoned =>
    refine ⟨.intake (.recordFails replica (.other "")), rfl, ?_⟩
    simp [step, delivers, Intake.step, busy, isProgram]
  | settle settlement =>
    refine ⟨.intake (.settle replica true), rfl, ?_⟩
    simp [step, delivers, Intake.step, busy, isProgram]
  | count counter =>
    refine ⟨.intake (.count replica), rfl, ?_⟩
    simp [step, delivers, Intake.step, busy, isProgram]

/-- An idle replica has no call that could return. -/
theorem nothing_to_return (idle : durable.intake.replicas replica = none)
    (own : OfReplica replica action) : durable.step serde errorText action = none := by
  cases action with
  | publish message => exact own.elim
  | deliver other seq deliveredCount => exact own.elim
  | intake action =>
    cases action with
    | deliver other frame => exact own.elim
    | openFanOut other sid nowV7 now => exact own.elim
    | crash other => exact own.elim
    | purge now => exact own.elim
    | database action => exact own.elim
    | _ =>
      obtain rfl := own
      simp [step, delivers, Intake.step, idle]

/-- A delivery that is in progress once storage has recovered settles its message. -/
theorem settles_in_time (run : Endless (step serde errorText) Recovered durable)
    (returns : run.Fair (OfReplica replica)) (program : Handler Verdict) :
    ∀ n issued, (run.state n).Handling replica number seq program issued →
      Ensures answeredContract (fun _ issued => issued = true) program issued →
      ∃ m, n ≤ m ∧ seq ∈ (run.state m).settled := by
  induction program with
  | done verdict =>
    intro n issued handling ensured
    exact ⟨n, Nat.le_refl n, handling.issues ensured⟩
  | fail error => exact error.elim
  | call request next ih =>
    intro n issued handling ensured
    have comes := run.comes_about
      (fun durable => durable.Handling replica number seq (.call request next) issued)
      (fun durable => ∃ reply later, answeredContract.allows request issued reply later ∧
        durable.Handling replica number seq (next reply) later)
      returns handling (fun m waits => waits.enabled)
      (fun m waits own => waits.answers ensured (run.met m).2 own (run.moved m))
      (fun m waits foreign => waits.waits (run.met m).2 foreign (run.moved m))
    obtain ⟨m, after, reply, later, allowed, goesOn⟩ := comes
    obtain ⟨last, afterwards, settled⟩ := ih reply m later goesOn (ensured.2 reply later allowed)
    exact ⟨last, Nat.le_trans after afterwards, settled⟩

/-- A message stays on the stream. -/
theorem stream_kept {message : Except String IntegrationCommand}
    (stepped : durable.step serde errorText action = some after)
    (there : durable.stream[seq]? = some message) : after.stream[seq]? = some message := by
  cases moves_of_step stepped with
  | publish =>
    obtain ⟨inside, -⟩ := List.getElem?_eq_some_iff.mp there
    rw [List.getElem?_append_left inside]
    exact there
  | deliver unsettled onStream moved => exact there
  | intake own moved => exact there

/-- A delivery begins. -/
theorem Sound.handling (sound : Sound serde initial durable) {deliveredCount : Option Int}
    {envelope : IntegrationCommand} (there : durable.stream[seq]? = some (.ok envelope))
    (stepped : durable.step serde errorText (.deliver replica seq deliveredCount) = some after) :
    after.Handling replica durable.intake.delivered.length seq
      (handle serde errorText ⟨.ok envelope, deliveredCount⟩) false := by
  cases moves_of_step stepped with
  | @deliver _ _ _ message intake unsettled onStream moved =>
    obtain rfl := Option.some.inj (there.symm.trans onStream)
    cases Intake.moves_of_step moved with
    | deliver idle =>
      refine ⟨⟨_, Function.update_self _ _ _, rfl, rfl⟩, ?_, fun issued => by contradiction⟩
      rw [← sound.carries, List.getElem?_append_right (Nat.le_refl _), Nat.sub_self]
      rfl

/-- Every reachable durable is sound. -/
theorem sound_of_reaches {table : Notifications} {guard : Durable → Action → Prop}
    (identifies : ∀ durable action, guard durable action → Identifies durable action)
    (sound : Sound serde table.rows durable)
    (run : Reaches (step serde errorText) guard durable after) : Sound serde table.rows after :=
  run.invariant (fun _ _ _ sound met stepped => sound_step sound (identifies _ _ met) stepped) sound

/-- Once storage has recovered, a message that is delivered is settled, and accounted for. -/
theorem comes_settled {table : Notifications} (sound : Sound serde table.rows durable)
    (run : Endless (step serde errorText) Recovered durable)
    (returns : ∀ replica, run.Fair (OfReplica replica)) {n : Nat}
    {envelope : IntegrationCommand} (there : (run.state n).stream[seq]? = some (.ok envelope))
    (delivered : ∃ m, n ≤ m ∧ (seq ∈ (run.state m).settled ∨
      ∃ replica deliveredCount, run.label m = .deliver replica seq deliveredCount)) :
    ∃ m, n ≤ m ∧ seq ∈ (run.state m).settled ∧
      Accounted serde (run.state m) envelope := by
  have sounds : ∀ m, Sound serde table.rows (run.state m) :=
    fun m => sound_of_reaches (fun _ _ recovered => recovered.1) sound (run.reaches m)
  have stays : ∀ m, n ≤ m → (run.state m).stream[seq]? = some (.ok envelope) :=
    run.stays (fun durable => durable.stream[seq]? = some (.ok envelope))
      (fun m _ there => stream_kept (run.moved m) there) there
  have settled : ∃ m, n ≤ m ∧ seq ∈ (run.state m).settled := by
    obtain ⟨m, later, now | ⟨replica, deliveredCount, label⟩⟩ := delivered
    · exact ⟨m, later, now⟩
    · have moved := run.moved m
      rw [label] at moved
      have begins := (sounds m).handling (stays m later) moved
      obtain ⟨last, after, settled⟩ := settles_in_time run (returns replica) _ (m + 1) false begins
        (handle_answered rfl)
      exact ⟨last, by omega, settled⟩
  obtain ⟨m, later, settled⟩ := settled
  obtain ⟨found, onStream, accounted⟩ := (sounds m).accounts seq settled
  obtain rfl := Except.ok.inj (Option.some.inj ((stays m later).symm.trans onStream))
  exact ⟨m, later, settled, accounted⟩

end Durable

/-- No command is lost, where one `command_id` stands for one command. Whatever replicas, storage
and broker have been through, and however often publishers replay a command, a message that the
durable has dropped could be read and is accounted for: each of its recipients has had a row
committed, or the ledger a row that explains why not. And once storage has recovered, every
message that can be read is dropped, accounted for, when the durable next delivers it. -/
theorem no_command_is_lost (serde : Serde) (errorText : SqlxError → String)
    (table : Notifications) (durable : Durable)
    (reached : Reaches (Durable.step serde errorText) Durable.Identifies
      (Durable.start table.rows) durable) :
    (∀ seq ∈ durable.settled, ∃ envelope, durable.stream[seq]? = some (.ok envelope) ∧
      Durable.Accounted serde durable envelope) ∧
    ∀ run : Endless (Durable.step serde errorText) Durable.Recovered durable,
      (∀ replica, run.Fair (Durable.OfReplica replica)) →
      ∀ n seq envelope, (run.state n).stream[seq]? = some (.ok envelope) →
        (∃ m, n ≤ m ∧ (seq ∈ (run.state m).settled ∨
          ∃ replica deliveredCount, run.label m = .deliver replica seq deliveredCount)) →
        ∃ m, n ≤ m ∧ seq ∈ (run.state m).settled ∧
          Durable.Accounted serde (run.state m) envelope := by
  have sound : Durable.Sound serde table.rows durable :=
    Durable.sound_of_reaches (fun _ _ identifies => identifies) (Durable.start_sound table) reached
  refine ⟨sound.accounts, ?_⟩
  intro run returns n seq envelope there delivered
  exact Durable.comes_settled sound run returns there delivered

/-! ## An outage -/

/-- One step, with the identifiers of `sampleSerde`. -/
def sampleDurableStep : Durable → Durable.Action → Option Durable :=
  Durable.step sampleSerde fun _ => ""

/-- The fan-out of the sample frame in a session, up to its reply. -/
def sampleAttempt (sid first : Nat) : List Durable.Action :=
  .deliver 0 0 none :: .intake (.openFanOut 0 sid (fun i => sampleId (i + first)) ⟨0⟩) ::
    ([.advance sid, .visit sid 0, .visit sid 0, .finish sid, .advance sid].map
      fun action => .intake (.database action))

/-- The command as its publisher sends it again, under a fresh trace. -/
def sampleReplay : IntegrationCommand := { sampleEnvelope with correlationId := sampleId 9 }

/-- The command and its replay wait on the stream. -/
def sampleReplayed : Durable :=
  { Durable.start [] with stream := [.ok sampleEnvelope, .ok sampleReplay] }

/-- A replay may be published, as its payload is that of the command. -/
theorem sampleReplayed_reached :
    Steps sampleDurableStep Durable.Identifies (Durable.start [])
      [.publish (.ok sampleEnvelope), .publish (.ok sampleReplay)] sampleReplayed := by
  have first : Durable.Identifies (Durable.start []) (.publish (.ok sampleEnvelope)) := by
    intro envelope published other there same
    contradiction
  have second : Durable.Identifies { Durable.start [] with stream := [.ok sampleEnvelope] }
      (.publish (.ok sampleReplay)) := by
    rintro envelope published other there -
    cases published
    obtain rfl := Except.ok.inj (List.mem_singleton.mp there)
    rfl
  exact .next first rfl (.next second rfl (.refl _))

/-- A message is published on an empty stream only. -/
def publishesFirst (durable : Durable) : Durable.Action → Bool
  | .publish _ => durable.stream.isEmpty
  | _ => true

/-- A message on an empty stream shares its `command_id` with none. -/
theorem identifies_of_publishesFirst (durable : Durable) (action : Durable.Action)
    (checked : publishesFirst durable action = true) : durable.Identifies action := by
  rintro envelope rfl other member -
  have empty : durable.stream = [] := List.isEmpty_iff.mp checked
  rw [empty] at member
  contradiction

/-- The fan-out of the command is rolled back, and the NAK is lost. -/
def sampleOutage : Durable :=
  (play (fun durable action => if publishesFirst durable action then
      sampleDurableStep durable action else none) sampleReplayed
    (sampleAttempt 0 10 ++
      [.intake (.database (.rollback 0)), .intake (.fanOutFails 0 (.other "connection lost")),
        .intake (.settle 0 false), .intake (.finish 0)])).get (by decide)

/-- The outage is reached where one `command_id` stands for one command. -/
theorem sampleOutage_reached :
    Reaches sampleDurableStep Durable.Identifies (Durable.start []) sampleOutage :=
  ⟨_, sampleReplayed_reached.append
    (steps_of_checked_play (Option.some_get _).symm identifies_of_publishesFirst)⟩

/-- The command is delivered again, and nothing fails. -/
def sampleRecovering : List Durable.Action :=
  sampleAttempt 1 20 ++
    [.intake (.database (.commit 1)), .intake (.fanOutReturns 0), .intake (.settle 0 true),
      .intake (.finish 0)]

/-- The replay is delivered, and its fan-out finds the rows and announces nothing. -/
def sampleReplaying : List Durable.Action :=
  .deliver 0 1 none :: .intake (.openFanOut 0 2 (fun i => sampleId (i + 30)) ⟨0⟩) ::
    ([.advance 2, .visit 2 0, .visit 2 0, .finish 2, .commit 2].map
      fun action => .intake (.database action)) ++
    [.intake (.fanOutReturns 0), .intake (.settle 0 true), .intake (.finish 0)]

/-- Nothing fails at the step and nothing is published. -/
def answersAlways (_ : Durable) : Durable.Action → Bool
  | .publish _ => false
  | .deliver .. => true
  | .intake (.fanOutFails ..) => false
  | .intake (.recordLost ..) => false
  | .intake (.recordFails ..) => false
  | .intake (.settle _ landed) => landed
  | .intake (.crash _) => false
  | .intake _ => true

/-- A step that passes the check is one of a recovered run. -/
theorem recovered_of_answersAlways (durable : Durable) (action : Durable.Action)
    (checked : answersAlways durable action = true) : Durable.Recovered durable action := by
  refine ⟨?_, ?_⟩
  · rintro envelope rfl
    contradiction
  · cases action with
    | publish message => contradiction
    | deliver replica seq deliveredCount => trivial
    | intake action =>
      cases action with
      | settle replica landed => exact checked
      | fanOutFails replica error => contradiction
      | recordLost replica id now error => contradiction
      | recordFails replica error => contradiction
      | crash replica => contradiction
      | _ => trivial

/-- Where the recovery leads. -/
def sampleRecovered : Durable :=
  (play (fun durable action => if answersAlways durable action then
    sampleDurableStep durable action else none) sampleOutage
    (sampleRecovering ++ sampleReplaying)).get (by decide)

/-- The recovery is a run in which nothing fails. -/
theorem sampleRecovered_reached :
    Steps sampleDurableStep Durable.Recovered sampleOutage (sampleRecovering ++ sampleReplaying)
      sampleRecovered :=
  steps_of_checked_play (Option.some_get _).symm recovered_of_answersAlways

/-- The retention pass leaves an empty ledger as it is. -/
theorem purge_idles {durable : Durable} (empty : durable.intake.ledger = []) (now : DateTime) :
    sampleDurableStep durable (.intake (.purge now)) = some durable := by
  obtain ⟨intake, stream, carried, settled⟩ := durable
  obtain ⟨store, ledger, recorded, delivered, replicas, trace, fanOuts, ended⟩ := intake
  obtain rfl : ledger = [] := empty
  simp [sampleDurableStep, Durable.step, Durable.delivers, Intake.step, Durable.settles,
    deleteExpiredDeadLetters]

/-- The run through the recovery, and nothing more after it. -/
def sampleRecovery : Endless sampleDurableStep Durable.Recovered sampleOutage :=
  sampleRecovered_reached.resting (recovered_of_answersAlways _ (.intake (.purge ⟨0⟩)) rfl)
    (purge_idles rfl ⟨0⟩)

/-- No replica has anything to do at its end. -/
theorem sampleRecovered_idle (replica : Nat) :
    sampleRecovered.intake.replicas replica = none := by
  cases replica with
  | zero => rfl
  | succ replica => rfl

/-- Every call returns in it. -/
theorem sampleRecovery_fair (replica : Nat) : sampleRecovery.Fair (Durable.OfReplica replica) := by
  unfold sampleRecovery
  apply Steps.resting_fair
  intro action own
  exact Durable.nothing_to_return (sampleRecovered_idle replica) own

/-- The command and its replay are settled, and its rows are there. -/
theorem no_command_is_lost_sample :
    (∃ m, 0 ∈ (sampleRecovery.state m).settled ∧
      Durable.Accounted sampleSerde (sampleRecovery.state m) sampleEnvelope) ∧
    ∃ m, 1 ∈ (sampleRecovery.state m).settled ∧
      Durable.Accounted sampleSerde (sampleRecovery.state m) sampleReplay := by
  have comes := (no_command_is_lost sampleSerde (fun _ => "") .empty sampleOutage
    sampleOutage_reached).2 sampleRecovery sampleRecovery_fair
  obtain ⟨m, -, settled, accounted⟩ :=
    comes 0 0 sampleEnvelope rfl ⟨0, Nat.le_refl 0, Or.inr ⟨0, none, rfl⟩⟩
  obtain ⟨m', -, settled', accounted'⟩ :=
    comes 0 1 sampleReplay rfl ⟨11, Nat.zero_le 11, Or.inr ⟨0, none, rfl⟩⟩
  exact ⟨⟨m, settled, accounted⟩, m', settled', accounted'⟩

end SvcNotifier
