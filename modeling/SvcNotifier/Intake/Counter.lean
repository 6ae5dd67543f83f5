import SvcNotifier.Intake.Refusal
import SvcNotifier.Intake.Settlement

/-!
# `notifier_intake_dead_letters_total`

The counter of one process against the ledger rows that its own INSERTs have committed. The
increment is decided from the reply of the INSERT: between the reply and the increment the
process owes one, and an INSERT that commits but loses its reply is never counted, for the
redelivery finds the row and adds nothing.
-/

namespace SvcNotifier

open Library Program

/-- Distinct reasons have distinct codes. -/
theorem DeadLetterReason.asStr_injective : Function.Injective DeadLetterReason.asStr := by
  intro left right same
  cases left <;> cases right <;> first | rfl | exact absurd same (by decide)

/-- How many ledger rows have a reason. -/
def rowsOf (reason : DeadLetterReason) (rows : List DeadLetter) : Nat :=
  rows.countP fun row => row.reason == reason.asStr

/-- The rows of two lists together. -/
theorem rowsOf_append (reason : DeadLetterReason) (first second : List DeadLetter) :
    rowsOf reason (first ++ second) = rowsOf reason first + rowsOf reason second :=
  List.countP_append

/-! ## What `handle` owes the counter -/

/-- The increment that is owed for a reason. -/
def owes (owed : Option DeadLetterReason) (reason : DeadLetterReason) : Nat :=
  if owed = some reason then 1 else 0

/-- The calls of a delivery, by the increment they leave owed: a ledger row that is returned is
owed one, and the counter is incremented only when it is owed. -/
def meterContract : Contract IntakeCall IntakeCall.Reply (Option DeadLetterReason) where
  requires request owed := match request with
    | .count (.deadLetters reason) => owed = some reason
    | _ => owed = none
  allows request _ reply after := match request, reply with
    | .recordDeadLetter abandoned, .ok (some _) => after = some abandoned.reason
    | _, _ => after = none

/-- Nothing is owed. -/
def Square {α : Type} (_ : α) (owed : Option DeadLetterReason) : Prop := owed = none

/-- The settlement owes nothing. -/
theorem apply_meters (outcome : MessageOutcome) :
    Ensures meterContract Square (apply outcome) none := by
  refine ⟨rfl, ?_⟩
  intro landed after allowed
  exact allowed

/-- `abandon` increments the counter when its row is returned. -/
theorem abandon_meters (abandoned : Abandoned) :
    Ensures meterContract Square (abandon abandoned) none := by
  refine ⟨rfl, ?_⟩
  intro recorded after allowed
  match recorded with
  | .ok (some id) =>
    refine ⟨allowed, ?_⟩
    intro _ later counted
    exact counted
  | .ok none => exact allowed
  | .error error =>
    refine ⟨allowed, ?_⟩
    intro _ later counted
    exact counted

section

variable (serde : Serde) (errorText : SqlxError → String)

/-- `triage` leaves nothing owed. -/
theorem triage_meters (command : DeliverNotification) (payload : Value) (trace : Trace)
    (deliveredCount : Option Int) (error : SqlxError) :
    Ensures meterContract Square
      (triage errorText command payload trace deliveredCount error) none := by
  unfold triage
  cases classify error with
  | transient => rfl
  | poison => exact abandon_meters _

/-- What `handle` does before it settles owes nothing. -/
theorem attempt_meters (payload : Value) (trace : Trace) (deliveredCount : Option Int) :
    Ensures meterContract Square (attempt serde errorText payload trace deliveredCount) none := by
  unfold attempt
  split
  · exact Ensures.bind ((abandon_meters _).mono fun _ _ settled => settled)
  · rename_i command valid
    refine ⟨rfl, ?_⟩
    intro written after allowed
    have clear : after = none := by
      cases written <;> exact allowed
    rw [clear]
    cases written with
    | ok count => rfl
    | error error =>
      show Ensures meterContract Square (triage errorText command payload trace deliveredCount error
        >>= fun failure => pure (some failure)) none
      exact Ensures.bind ((triage_meters errorText command payload trace deliveredCount error).mono
        fun _ _ settled => settled)

/-- `handle` leaves nothing owed. -/
theorem handle_meters (delivered : Delivered) :
    Ensures meterContract Square (handle serde errorText delivered) none := by
  unfold handle
  split
  · refine ⟨rfl, ?_⟩
    intro _ after counted
    have clear : after = none := counted
    rw [clear]
    exact Ensures.bind ((apply_meters _).mono fun _ _ settled => settled)
  · apply Ensures.bind
    apply (attempt_meters serde errorText _ _ _).mono
    intro failure after settled
    have clear : after = none := settled
    rw [clear]
    apply Ensures.bind
    apply (apply_meters _).mono
    intro _ later still
    cases failure <;> exact still

end

/-! ## One process and its counter -/

/-- The intake, with what is known of one process since it started. -/
structure Metered where
  /-- The replicas, the database and the ledger. -/
  intake : Intake
  /-- `notifier_intake_dead_letters_total`, by reason. -/
  counted : DeadLetterReason → Nat
  /-- The ledger rows its INSERTs have committed. -/
  inserted : List DeadLetter
  /-- Those of them whose INSERT lost its reply. -/
  lost : List DeadLetter

/-- The call a process waits for. -/
def Intake.asks (intake : Intake) (process : Nat) : Option IntakeCall :=
  match intake.replicas process with
  | some delivery => match delivery.program with
    | .call request _ => some request
    | _ => none
  | none => none

/-- The rows that a process's INSERT adds when it takes effect. -/
def Intake.adds (intake : Intake) (process : Nat) (id : Uuid) (now : DateTime) : List DeadLetter :=
  match intake.asks process with
  | some (.recordDeadLetter abandoned) => recordDeadLetter intake.ledger (.of id now abandoned)
  | _ => []

/-- The increments of a process's counter that its call makes. -/
def Intake.increments (intake : Intake) (process : Nat) (reason : DeadLetterReason) : Nat :=
  match intake.asks process with
  | some (.count (.deadLetters counted)) => if counted = reason then 1 else 0
  | _ => 0

namespace Metered

/-- A process that has just started. -/
def fresh (intake : Intake) : Metered :=
  { intake := intake, counted := fun _ => 0, inserted := [], lost := [] }

/-- What a step of the intake does to the account of a process. -/
def observe (process : Nat) (metered : Metered) (action : Intake.Action) (after : Intake) :
    Metered :=
  match action with
  | .record replica id now =>
    if replica = process then
      { metered with
        intake := after
        inserted := metered.inserted ++ metered.intake.adds process id now }
    else { metered with intake := after }
  | .recordLost replica id now _ =>
    if replica = process then
      { metered with
        intake := after
        inserted := metered.inserted ++ metered.intake.adds process id now
        lost := metered.lost ++ metered.intake.adds process id now }
    else { metered with intake := after }
  | .count replica =>
    if replica = process then
      { metered with
        intake := after
        counted := fun reason =>
          metered.counted reason + metered.intake.increments process reason }
    else { metered with intake := after }
  | .crash replica => if replica = process then fresh after else { metered with intake := after }
  | _ => { metered with intake := after }

/-- One step of the intake, with the account of a process. -/
def step (serde : Serde) (errorText : SqlxError → String) (process : Nat) (metered : Metered)
    (action : Intake.Action) : Option Metered :=
  (Intake.step serde errorText metered.intake action).map (metered.observe process action)

/-- No INSERT of the process commits a row and loses its reply. -/
def Replies (process : Nat) (metered : Metered) (action : Intake.Action) : Prop :=
  ∀ id now error, action = .recordLost process id now error →
    metered.intake.adds process id now = []

/-- The account of a process is square up to the increment that is owed: the counter, what is
owed and the rows whose reply was lost come to the rows inserted. -/
structure Balanced (process : Nat) (metered : Metered) (owed : Option DeadLetterReason) :
    Prop where
  /-- Between two deliveries nothing is owed. -/
  idle : metered.intake.replicas process = none → owed = none
  /-- A delivery counts what is owed before it ends. -/
  busy : ∀ delivery, metered.intake.replicas process = some delivery →
    Ensures meterContract Square delivery.program owed
  /-- For every reason, the counter, what is owed and what was lost come to what was inserted. -/
  square : ∀ reason, metered.counted reason + owes owed reason + rowsOf reason metered.lost =
    rowsOf reason metered.inserted

variable {process : Nat} {metered : Metered} {owed : Option DeadLetterReason}

/-- A process that has just started is square. -/
theorem fresh_balanced {intake : Intake} (idle : intake.replicas process = none) :
    Balanced process (fresh intake) none where
  idle _ := rfl
  busy delivery busy := by
    have busy : intake.replicas process = some delivery := busy
    rw [idle] at busy
    contradiction
  square reason := rfl

/-- What leaves the process alone leaves its account square. -/
theorem Balanced.aside {after : Intake} (balanced : Balanced process metered owed)
    (same : after.replicas process = metered.intake.replicas process) :
    Balanced process { metered with intake := after } owed where
  idle idle := balanced.idle (same ▸ idle)
  busy delivery busy := balanced.busy delivery (same ▸ busy)
  square := balanced.square

/-- What a process that is busy is doing. -/
theorem doing {replicas : Nat → Option Delivery} {delivery waiting : Delivery}
    (busy : Function.update replicas process (some delivery) process = some waiting) :
    delivery = waiting := by
  rw [Function.update_self] at busy
  exact Option.some.inj busy

/-- A call of the process returns. -/
theorem Balanced.replied {later : Metered} {delivery : Delivery} {request : IntakeCall}
    {next : request.Reply → Handler Verdict} {reply : request.Reply}
    {still : Option DeadLetterReason} {left : Delivery} (balanced : Balanced process metered owed)
    (busy : metered.intake.replicas process = some delivery)
    (at_ : delivery.program = .call request next)
    (answered : later.intake.replicas process = some left) (goesOn : left.program = next reply)
    (allowed : meterContract.allows request owed reply still)
    (square : ∀ reason, later.counted reason + owes still reason + rowsOf reason later.lost =
      rowsOf reason later.inserted) : Balanced process later still where
  idle idle := by
    rw [answered] at idle
    contradiction
  busy waiting isWaiting := by
    have same : left = waiting := Option.some.inj (answered.symm.trans isWaiting)
    have ensured := balanced.busy delivery busy
    rw [at_] at ensured
    rw [← same, goesOn]
    exact ensured.2 reply still allowed
  square := square

/-- What the process owes before a call that it waits for. -/
theorem Balanced.owing {delivery : Delivery} {request : IntakeCall}
    {next : request.Reply → Handler Verdict} (balanced : Balanced process metered owed)
    (busy : metered.intake.replicas process = some delivery)
    (at_ : delivery.program = .call request next) : meterContract.requires request owed := by
  have ensured := balanced.busy delivery busy
  rw [at_] at ensured
  exact ensured.1

/-- A call that inserts no row and counts nothing returns to a process that owes nothing. -/
theorem Balanced.returned {after : Intake} {delivery left : Delivery} {request : IntakeCall}
    {next : request.Reply → Handler Verdict} {reply : request.Reply}
    (balanced : Balanced process metered owed) (clear : owed = none)
    (busy : metered.intake.replicas process = some delivery)
    (at_ : delivery.program = .call request next)
    (answered : after.replicas process = some left) (goesOn : left.program = next reply)
    (allowed : meterContract.allows request none reply none) :
    ∃ still, Balanced process { metered with intake := after } still := by
  rw [clear] at balanced
  exact ⟨none, balanced.replied busy at_ answered goesOn allowed balanced.square⟩

/-- What a process waits for, once its call is known. -/
theorem asks_of_busy {intake : Intake} {delivery : Delivery} {request : IntakeCall}
    {next : request.Reply → Handler Verdict} (busy : intake.replicas process = some delivery)
    (at_ : delivery.program = .call request next) : intake.asks process = some request := by
  rw [Intake.asks, busy]
  simp only [at_]

/-- The reply of an INSERT owes the increment of the row it returns. -/
theorem owed_of_row {abandoned : Abandoned} {id : Uuid} {now : DateTime} {ledger : List DeadLetter}
    {recorded : Option Uuid} {rows : List DeadLetter}
    (added : rows = recordDeadLetter ledger (.of id now abandoned))
    (answered : recorded = rows.head?.map DeadLetter.id) :
    ∃ still, meterContract.allows (.recordDeadLetter abandoned) none (.ok recorded) still ∧
      ∀ reason, owes still reason = rowsOf reason rows := by
  unfold recordDeadLetter at added
  split at added
  · subst added answered
    exact ⟨none, rfl, fun reason => rfl⟩
  · subst added answered
    refine ⟨some abandoned.reason, rfl, ?_⟩
    intro reason
    simp only [owes, rowsOf, List.countP_singleton, DeadLetter.of, beq_iff_eq,
      DeadLetterReason.asStr_injective.eq_iff, Option.some.injEq]

/-- Every step keeps the account of the process square. -/
theorem balanced_step {serde : Serde} {errorText : SqlxError → String} {after : Metered}
    {action : Intake.Action} (balanced : Balanced process metered owed)
    (stepped : step serde errorText process metered action = some after) :
    ∃ still, Balanced process after still := by
  obtain ⟨intake, moved, isAfter⟩ := Option.map_eq_some_iff.mp stepped
  subst isAfter
  -- The step is of another replica, of the database, or a call of the process that returns.
  have apart : ∀ {replica : Nat} (delivery : Option Delivery), replica ≠ process →
      Function.update metered.intake.replicas replica delivery process =
        metered.intake.replicas process := by
    intro replica delivery other
    exact Function.update_of_ne (Ne.symm other) _ _
  cases Intake.moves_of_step moved with
  | @deliver replica frame idle =>
    by_cases own : replica = process
    · subst own
      refine ⟨none, ?_, ?_, ?_⟩
      · exact fun _ => rfl
      · intro delivery busy
        rw [← doing busy]
        exact handle_meters serde errorText frame
      · intro reason
        have square := balanced.square reason
        rw [balanced.idle idle] at square
        exact square
    · exact ⟨owed, balanced.aside (apart _ own)⟩
  | @openFanOut replica sid nowV7 now delivery command next store busy at_ alone begun =>
    by_cases own : replica = process
    · subst own
      refine ⟨owed, ?_, ?_, balanced.square⟩
      · intro idle
        have held : (metered.intake.openSession replica delivery sid store).replicas replica =
            some { delivery with session := some sid } := Function.update_self _ _ _
        have gone := held.symm.trans idle
        contradiction
      · intro waiting isWaiting
        rw [← doing isWaiting]
        exact balanced.busy delivery busy
    · exact ⟨owed, balanced.aside (apart _ own)⟩
  | @fanOutReturns replica sid delivery command next operation written busy at_ waiting committed =>
    by_cases own : replica = process
    · subst own
      exact balanced.returned (balanced.owing busy at_) busy at_
        (Function.update_self _ _ _) rfl rfl
    · exact ⟨owed, balanced.aside (apart _ own)⟩
  | @fanOutFails replica error delivery command next busy at_ =>
    by_cases own : replica = process
    · subst own
      exact balanced.returned (balanced.owing busy at_) busy at_
        (Function.update_self _ _ _) rfl rfl
    · exact ⟨owed, balanced.aside (apart _ own)⟩
  | @record replica id now delivery abandoned next recorded busy at_ answered =>
    by_cases own : replica = process
    · subst own answered
      have clear : owed = none := balanced.owing busy at_
      rw [clear] at balanced
      have added : metered.intake.adds replica id now =
          recordDeadLetter metered.intake.ledger (.of id now abandoned) := by
        rw [Intake.adds, asks_of_busy busy at_]
      obtain ⟨still, allowed, owing⟩ := owed_of_row added (by rw [added])
      refine ⟨still, ?_⟩
      simp only [observe, if_true]
      refine balanced.replied busy at_ (Function.update_self _ _ _) rfl allowed ?_
      intro reason
      have square := balanced.square reason
      have nothing : owes none reason = 0 := rfl
      dsimp only
      rw [rowsOf_append, owing reason]
      omega
    · simp only [observe, if_neg own]
      exact ⟨owed, balanced.aside (apart _ own)⟩
  | @recordLost replica id now error delivery abandoned next busy at_ =>
    by_cases own : replica = process
    · subst own
      have clear : owed = none := balanced.owing busy at_
      rw [clear] at balanced
      refine ⟨none, ?_⟩
      simp only [observe, if_true]
      refine balanced.replied busy at_ (Function.update_self _ _ _) rfl rfl ?_
      intro reason
      have square := balanced.square reason
      dsimp only
      rw [rowsOf_append, rowsOf_append]
      omega
    · simp only [observe, if_neg own]
      exact ⟨owed, balanced.aside (apart _ own)⟩
  | @recordFails replica error delivery abandoned next busy at_ =>
    by_cases own : replica = process
    · subst own
      exact balanced.returned (balanced.owing busy at_) busy at_
        (Function.update_self _ _ _) rfl rfl
    · exact ⟨owed, balanced.aside (apart _ own)⟩
  | @settle replica landed delivery settlement next busy at_ =>
    by_cases own : replica = process
    · subst own
      exact balanced.returned (balanced.owing busy at_) busy at_
        (Function.update_self _ _ _) rfl rfl
    · exact ⟨owed, balanced.aside (apart _ own)⟩
  | @count replica delivery counter next busy at_ =>
    by_cases own : replica = process
    · subst own
      refine ⟨none, ?_⟩
      simp only [observe, if_true]
      refine balanced.replied busy at_ (Function.update_self _ _ _) rfl ?_ ?_
      · cases counter <;> rfl
      · intro reason
        have square := balanced.square reason
        have due := balanced.owing busy at_
        have nothing : owes none reason = 0 := rfl
        have made : metered.intake.increments replica reason = owes owed reason := by
          rw [Intake.increments, asks_of_busy busy at_]
          cases counter with
          | deadLetters counted =>
            have due : owed = some counted := due
            simp only [due, owes, Option.some.injEq]
          | _ =>
            have due : owed = none := due
            rw [due]
            rfl
        simp only [made, nothing]
        omega
    · simp only [observe, if_neg own]
      exact ⟨owed, balanced.aside (apart _ own)⟩
  | @finish replica delivery verdict busy at_ =>
    by_cases own : replica = process
    · subst own
      have clear : owed = none := by
        have ensured := balanced.busy delivery busy
        rw [at_] at ensured
        exact ensured
      refine ⟨owed, fun _ => clear, ?_, balanced.square⟩
      intro waiting isWaiting
      have released : (metered.intake.release replica [delivery.number]).replicas replica = none :=
        Function.update_self _ _ _
      have left := released.symm.trans isWaiting
      contradiction
    · exact ⟨owed, balanced.aside (apart _ own)⟩
  | @crash replica =>
    by_cases own : replica = process
    · subst own
      simp only [observe, if_true]
      exact ⟨none, fresh_balanced (Function.update_self _ _ _)⟩
    · simp only [observe, if_neg own]
      exact ⟨owed, balanced.aside (apart _ own)⟩
  | purge => exact ⟨owed, balanced.aside rfl⟩
  | database foreign stepped => exact ⟨owed, balanced.aside rfl⟩

/-- The rows a process's INSERT adds have a reason. -/
theorem reason_of_added {intake : Intake} {id : Uuid} {now : DateTime} {row : DeadLetter}
    (added : row ∈ intake.adds process id now) :
    ∃ reason : DeadLetterReason, row.reason = reason.asStr := by
  unfold Intake.adds at added
  split at added
  · rename_i abandoned asked
    unfold recordDeadLetter at added
    split at added
    · contradiction
    · rw [List.mem_singleton.mp added]
      exact ⟨abandoned.reason, rfl⟩
  · contradiction

/-- What a step loses: nothing, what an INSERT adds whose reply is lost, or, with the process
itself, all account of it. -/
theorem lost_step {serde : Serde} {errorText : SqlxError → String} {after : Metered}
    {action : Intake.Action}
    (stepped : step serde errorText process metered action = some after) :
    after.lost = metered.lost ∨ after.lost = [] ∨
      ∃ id now error, action = .recordLost process id now error ∧
        after.lost = metered.lost ++ metered.intake.adds process id now := by
  obtain ⟨intake, moved, isAfter⟩ := Option.map_eq_some_iff.mp stepped
  subst isAfter
  cases action with
  | recordLost replica id now error =>
    by_cases own : replica = process
    · subst own
      simp only [observe, if_true]
      exact Or.inr (Or.inr ⟨id, now, error, rfl, rfl⟩)
    · simp only [observe, if_neg own]
      exact Or.inl trivial
  | crash replica =>
    by_cases own : replica = process
    · simp only [observe, if_pos own]
      exact Or.inr (Or.inl rfl)
    · simp only [observe, if_neg own]
      exact Or.inl trivial
  | record replica id now =>
    by_cases own : replica = process
    · simp only [observe, if_pos own]
      exact Or.inl trivial
    · simp only [observe, if_neg own]
      exact Or.inl trivial
  | count replica =>
    by_cases own : replica = process
    · simp only [observe, if_pos own]
      exact Or.inl trivial
    · simp only [observe, if_neg own]
      exact Or.inl trivial
  | _ => exact Or.inl rfl

/-- No row of a reason is lost for every reason only where no row is lost. -/
theorem lost_eq_nil_iff (reasoned : ∀ row ∈ metered.lost,
    ∃ reason : DeadLetterReason, row.reason = reason.asStr) :
    (∀ reason, rowsOf reason metered.lost = 0) ↔ metered.lost = [] := by
  constructor
  · intro none_
    cases isLost : metered.lost with
    | nil => rfl
    | cons row rest =>
      have member : row ∈ metered.lost := by
        rw [isLost]
        exact List.mem_cons_self
      obtain ⟨reason, same⟩ := reasoned row member
      have zero := List.countP_eq_zero.mp (none_ reason) row member
      rw [same, beq_self_eq_true] at zero
      contradiction
  · intro isNil reason
    rw [isNil]
    rfl

/-- What holds of a process in every state of a run. -/
structure Kept (process : Nat) (metered : Metered) : Prop where
  /-- The account is square, up to an increment. -/
  balanced : ∃ owed, Balanced process metered owed
  /-- The lost rows have reasons that are counted. -/
  reasoned : ∀ row ∈ metered.lost, ∃ reason : DeadLetterReason, row.reason = reason.asStr

/-- Every step keeps what is known of the process. -/
theorem kept_step {serde : Serde} {errorText : SqlxError → String} {after : Metered}
    {action : Intake.Action} (kept : Kept process metered)
    (stepped : step serde errorText process metered action = some after) : Kept process after where
  balanced := by
    obtain ⟨owed, balanced⟩ := kept.balanced
    exact balanced_step balanced stepped
  reasoned := by
    intro row member
    rcases lost_step stepped with same | none_ | ⟨id, now, error, -, grown⟩
    · rw [same] at member
      exact kept.reasoned row member
    · rw [none_] at member
      contradiction
    · rw [grown] at member
      rcases List.mem_append.mp member with old | new
      · exact kept.reasoned row old
      · exact reason_of_added new

/-- A process that has just started. -/
theorem fresh_kept {intake : Intake} (idle : intake.replicas process = none) :
    Kept process (fresh intake) where
  balanced := ⟨none, fresh_balanced idle⟩
  reasoned row member := by contradiction

/-- While no delivery is being handled, the counter is right exactly when no reply was lost. -/
theorem Kept.counted_iff (kept : Kept process metered)
    (idle : metered.intake.replicas process = none) :
    (∀ reason, metered.counted reason = rowsOf reason metered.inserted) ↔ metered.lost = [] := by
  obtain ⟨owed, balanced⟩ := kept.balanced
  have clear := balanced.idle idle
  rw [clear] at balanced
  have nothing : ∀ reason, owes none reason = 0 := fun _ => rfl
  rw [← lost_eq_nil_iff kept.reasoned]
  constructor
  · intro counted reason
    have square := balanced.square reason
    rw [nothing, counted] at square
    omega
  · intro none_ reason
    have square := balanced.square reason
    rw [nothing, none_] at square
    omega

end Metered

/-- The counter of dead letters counts the ledger rows that the process's own INSERTs have
committed exactly when none of them has lost its reply: in every run of one process from its
start, whatever the other replicas do, whatever is redelivered and whatever fails, while the
process handles no delivery. -/
theorem dead_letters_counted_iff (serde : Serde) (errorText : SqlxError → String) (process : Nat)
    (intake : Intake) (starts : intake.replicas process = none) :
    (∀ metered, Reaches (Metered.step serde errorText process) (Metered.Replies process)
        (Metered.fresh intake) metered →
      metered.intake.replicas process = none →
      ∀ reason, metered.counted reason = rowsOf reason metered.inserted) ∧
    ∀ metered, Reaches (Metered.step serde errorText process) anyStep
        (Metered.fresh intake) metered →
      metered.intake.replicas process = none →
      ((∀ reason, metered.counted reason = rowsOf reason metered.inserted) ↔
        metered.lost = []) := by
  have any : ∀ metered, Reaches (Metered.step serde errorText process) anyStep
      (Metered.fresh intake) metered → Metered.Kept process metered := by
    intro metered run
    exact run.invariant (fun _ _ _ kept _ stepped => Metered.kept_step kept stepped)
      (Metered.fresh_kept starts)
  constructor
  · intro metered run idle
    have keeps : ∀ (before : Metered) (action : Intake.Action) (after : Metered),
        before.lost = [] → Metered.Replies process before action →
        Metered.step serde errorText process before action = some after → after.lost = [] := by
      intro before action after nothing replies stepped
      rcases Metered.lost_step stepped with same | none_ | ⟨id, now, error, isLost, grown⟩
      · rw [same, nothing]
      · exact none_
      · rw [grown, nothing, replies id now error isLost]
        rfl
    have replied : metered.lost = [] := run.invariant keeps rfl
    exact ((any metered run.unguarded).counted_iff idle).mpr replied
  · intro metered run idle
    exact (any metered run).counted_iff idle

/-- A frame whose command is refused. -/
def sampleRefusedFrame : Delivered :=
  { payload := .ok (sampleCarrier sampleKeyed), deliveredCount := none }

/-- One step, with the account of replica 0. -/
def sampleMeteredStep : Metered → Intake.Action → Option Metered :=
  Metered.step sampleSerde (fun _ => "") 0

/-- A process that has handled nothing. -/
def sampleFresh : Metered := Metered.fresh (Intake.start [])

/-- No INSERT of a list of steps loses its reply. -/
def repliesAlways (_ : Metered) : Intake.Action → Bool
  | .recordLost .. => false
  | _ => true

/-- The frame is refused twice; the ledger has one row of it and it is counted once. -/
theorem dead_letters_counted_iff_sample :
    ∃ metered, play sampleMeteredStep sampleFresh
        [.deliver 0 sampleRefusedFrame, .record 0 (sampleId 7) ⟨0⟩, .count 0, .settle 0 false,
          .finish 0, .deliver 0 sampleRefusedFrame, .record 0 (sampleId 8) ⟨0⟩, .settle 0 true,
          .finish 0] = some metered ∧
      metered.counted .relativeLinkRejected = rowsOf .relativeLinkRejected metered.inserted ∧
      rowsOf .relativeLinkRejected metered.inserted = 1 := by
  refine ⟨_, rfl, ?_, by decide⟩
  have replies : ∀ (metered : Metered) (action : Intake.Action),
      repliesAlways metered action = true → Metered.Replies 0 metered action := by
    rintro metered action checked id now error rfl
    contradiction
  have played : play (fun metered action => if repliesAlways metered action then
      sampleMeteredStep metered action else none) sampleFresh
      [.deliver 0 sampleRefusedFrame, .record 0 (sampleId 7) ⟨0⟩, .count 0, .settle 0 false,
        .finish 0, .deliver 0 sampleRefusedFrame, .record 0 (sampleId 8) ⟨0⟩, .settle 0 true,
        .finish 0] = some _ := rfl
  exact (dead_letters_counted_iff sampleSerde (fun _ => "") 0 (Intake.start []) rfl).1 _
    ⟨_, steps_of_checked_play played replies⟩ rfl .relativeLinkRejected

/-- The first INSERT commits and loses its reply; the redelivered frame finds its row. -/
def sampleLostReply : List Intake.Action :=
  [.deliver 0 sampleRefusedFrame, .recordLost 0 (sampleId 7) ⟨0⟩ (.other ""), .count 0,
    .settle 0 true, .finish 0, .deliver 0 sampleRefusedFrame, .record 0 (sampleId 8) ⟨0⟩,
    .settle 0 true, .finish 0]

/-- The process after the redelivery. -/
def sampleUncounted : Metered :=
  (play sampleMeteredStep sampleFresh sampleLostReply).get (by decide)

/-- A row whose INSERT loses its reply is committed and never counted. -/
theorem lost_reply_is_never_counted :
    ¬ ∀ metered, Reaches sampleMeteredStep anyStep sampleFresh metered →
      metered.intake.replicas 0 = none →
      ∀ reason, metered.counted reason = rowsOf reason metered.inserted := by
  intro always
  have reached : Reaches sampleMeteredStep anyStep sampleFresh sampleUncounted :=
    reaches_of_play (Option.some_get _).symm
  have counted := always sampleUncounted reached rfl .relativeLinkRejected
  have none_ : sampleUncounted.counted .relativeLinkRejected = 0 := by decide
  have one : rowsOf .relativeLinkRejected sampleUncounted.inserted = 1 := by decide
  omega

end SvcNotifier
