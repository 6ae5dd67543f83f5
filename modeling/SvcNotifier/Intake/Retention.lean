import SvcNotifier.Intake.Counter
import SvcNotifier.Library.Retention
import Mathlib.Algebra.GroupWithZero.Nat

/-!
# The retention of the ledger

Each process runs `purge_dead_letters`, which goes over the ledger once a day and deletes what was
recorded more than 90 days before. Rows are recorded and deleted at the `now()` of a transaction,
which takes effect some time after, so the clock of the database is the latest `now()` so far and
a transaction may lag behind it.
-/

namespace SvcNotifier

open Library

/-- `recorded_at < now() - make_interval(days => $1)`. -/
def expired (now : DateTime) (row : DeadLetter) : Bool :=
  decide (row.recordedAt.nanos < now.nanos - deadLetterRetentionDays * 86400000000000)

/-- The time for which rows are kept, in nanoseconds. -/
def retention : Int := deadLetterRetentionDays * 86400000000000

/-- The counters of `purge_dead_letters`. -/
structure PurgeCounters where
  /-- `notifier_intake_dead_letter_purge_passes_total`. -/
  passes : Nat
  /-- `notifier_intake_dead_letters_purged_total`. -/
  purged : Nat
  /-- `notifier_intake_dead_letter_purge_failures_total`. -/
  failures : Nat

/-- The counters of a process that has just started. -/
def PurgeCounters.zero : PurgeCounters := { passes := 0, purged := 0, failures := 0 }

/-- What `purge_dead_letters` counts of what `delete_expired_dead_letters` returns. -/
def PurgeCounters.tick (counters : PurgeCounters) : Except SqlxError Nat → PurgeCounters
  | .ok purged =>
    { counters with passes := counters.passes + 1, purged := counters.purged + purged }
  | .error _ => { counters with failures := counters.failures + 1 }

/-- A pass that took effect. -/
structure PurgePass where
  /-- Whose pass it was. -/
  process : Nat
  /-- The start of its transaction. -/
  now : DateTime
  /-- The rows it deleted. -/
  deleted : List DeadLetter
  /-- Whether the process got its answer. -/
  answered : Bool

/-- The intake, with the passes over its ledger. -/
structure Retained where
  /-- The replicas, the database and the ledger. -/
  intake : Intake
  /-- The latest `now()` of the database, in nanoseconds. -/
  clock : Int
  /-- The passes that took effect, oldest first. -/
  passes : List PurgePass
  /-- What each process has counted. -/
  counters : Nat → PurgeCounters
  /-- How many passes there had been when a process started. -/
  started : Nat → Nat

namespace Retained

/-- Nothing has happened yet. -/
def start (rows : List Row) (clock : Int) : Retained :=
  { intake := Intake.start rows, clock := clock, passes := [], counters := fun _ => .zero,
    started := fun _ => 0 }

/-- What happens next. -/
inductive Action where
  /-- Anything but a pass. -/
  | intake (action : Intake.Action)
  /-- A process's tick deletes what has expired, and may lose the answer to an error. -/
  | tick (process : Nat) (now : DateTime) (lost : Option SqlxError)
  /-- A process's tick fails without effect. -/
  | tickFails (process : Nat) (error : SqlxError)

/-- The `now()` of what happens to the ledger. -/
def Action.now? : Action → Option DateTime
  | .intake (.record _ _ now) => some now
  | .intake (.recordLost _ _ now _) => some now
  | .tick _ now _ => some now
  | _ => none

/-- The clock has come to an instant. -/
def read (clock : Int) : Option DateTime → Int
  | some now => max clock now.nanos
  | none => clock

/-- A pass takes effect. -/
def pass (retained : Retained) (process : Nat) (now : DateTime) (answered : Bool) : Retained :=
  { retained with
    intake := { retained.intake with
      ledger := deleteExpiredDeadLetters now retained.intake.ledger }
    clock := max retained.clock now.nanos
    passes := retained.passes ++ [{
      process := process, now := now, deleted := retained.intake.ledger.filter (expired now),
      answered := answered }] }

/-- What a tick returns of a pass. -/
def answer (retained : Retained) (now : DateTime) : Option SqlxError → Except SqlxError Nat
  | none => .ok (retained.intake.ledger.filter (expired now)).length
  | some error => .error error

/-- A process counts what its tick returned. -/
def counted (retained : Retained) (process : Nat) (result : Except SqlxError Nat) : Retained :=
  { retained with
    counters := Function.update retained.counters process
      ((retained.counters process).tick result) }

/-- The step of the intake is a pass. -/
def isPurge : Intake.Action → Bool
  | .purge _ => true
  | _ => false

/-- A process that crashes starts over. -/
def restarted (retained : Retained) : Intake.Action → Retained
  | .crash process =>
    { retained with
      counters := Function.update retained.counters process .zero
      started := Function.update retained.started process retained.passes.length }
  | _ => retained

/-- One step; passes are made by ticks only. -/
def step (serde : Serde) (errorText : SqlxError → String) (retained : Retained) :
    Action → Option Retained
  | .intake action =>
    if isPurge action then none
    else match Intake.step serde errorText retained.intake action with
      | some after => some { retained.restarted action with
        intake := after, clock := read retained.clock (Action.intake action).now? }
      | none => none
  | .tick process now lost =>
    some ((retained.pass process now lost.isNone).counted process (retained.answer now lost))
  | .tickFails process error => some (retained.counted process (.error error))

/-- A transaction takes effect no later than `lag` after its `now()`, which is in microseconds. -/
def Clocked (lag : Int) (retained : Retained) (action : Action) : Prop :=
  ∀ now, action.now? = some now → retained.clock - lag ≤ now.nanos ∧ now.timestamptz = now

/-- The answered passes of a process since it started. -/
def passesOf (retained : Retained) (process : Nat) : List PurgePass :=
  (retained.passes.drop (retained.started process)).filter fun pass =>
    pass.process == process && pass.answered

/-- The ledger, as a log. -/
def log (retained : Retained) : Retention.Log DeadLetter PurgePass :=
  { held := retained.intake.ledger, added := retained.intake.recorded, passes := retained.passes }

/-- A row is no more than `lag` older than a pass before it. -/
def Follows (lag : Int) (pass : PurgePass) (row : DeadLetter) : Prop :=
  pass.now.nanos - lag ≤ row.recordedAt.nanos

/-- What holds in every state of a run. -/
structure Kept (lag : Int) (retained : Retained) : Prop where
  /-- The ledger is what the passes have left of the rows recorded. -/
  log : retained.log.Kept DeadLetter.commandId (fun pass row => expired pass.now row) (Follows lag)
  /-- No pass was ahead of the clock. -/
  past : ∀ pass ∈ retained.passes, pass.now.nanos ≤ retained.clock
  /-- A pass deletes what has expired. -/
  deleted : ∀ pass ∈ retained.passes, ∀ row ∈ pass.deleted, expired pass.now row = true
  /-- What was recorded has been deleted once, or is still there. -/
  whole : (retained.passes.flatMap PurgePass.deleted ++ retained.intake.ledger).Perm
    retained.intake.recorded
  /-- A process starts when so many passes have been made. -/
  begun : ∀ process, retained.started process ≤ retained.passes.length
  /-- A process counts the passes that it was told of. -/
  counts : ∀ process, (retained.counters process).passes = (retained.passesOf process).length
  /-- It counts the rows that they deleted. -/
  purged : ∀ process, (retained.counters process).purged =
    ((retained.passesOf process).map fun pass => pass.deleted.length).sum

variable {serde : Serde} {errorText : SqlxError → String} {lag : Int} {retained : Retained}

/-- Nothing has happened yet. -/
theorem start_kept (lag : Int) (rows : List Row) (clock : Int) :
    Kept lag (start rows clock) where
  log := Retention.Log.empty_kept
  past pass member := by contradiction
  deleted pass member := by contradiction
  whole := List.Perm.refl _
  begun process := Nat.le_refl 0
  counts process := rfl
  purged process := rfl

/-- What a step of the intake does to the ledger. -/
theorem ledger_of_step {intake after : Intake} {action : Intake.Action}
    (other : isPurge action = false)
    (stepped : Intake.step serde errorText intake action = some after) :
    (after.ledger = intake.ledger ∧ after.recorded = intake.recorded) ∨
      ∃ id now abandoned, (Action.intake action).now? = some now ∧
        after.ledger = (intake.record (.of id now abandoned)).ledger ∧
        after.recorded = (intake.record (.of id now abandoned)).recorded := by
  cases Intake.moves_of_step stepped with
  | @record replica id now delivery abandoned next recorded busy at_ answered =>
    exact Or.inr ⟨id, now, abandoned, rfl, rfl, rfl⟩
  | @recordLost replica id now error delivery abandoned next busy at_ =>
    exact Or.inr ⟨id, now, abandoned, rfl, rfl, rfl⟩
  | purge => contradiction
  | _ => exact Or.inl ⟨rfl, rfl⟩

/-- A row that is recorded is added to the log. -/
theorem log_record (ledger recorded : List DeadLetter) (passes : List PurgePass)
    (letter : DeadLetter) :
    ({ held := ledger ++ recordDeadLetter ledger letter,
       added := recorded ++ recordDeadLetter ledger letter,
       passes := passes } : Retention.Log DeadLetter PurgePass) =
      Retention.Log.add DeadLetter.commandId
        { held := ledger, added := recorded, passes := passes } letter := by
  unfold recordDeadLetter Retention.Log.add
  by_cases known : (ledger.any fun row => row.commandId == letter.commandId) = true
  · simp [known]
  · simp [known]

/-- A row recorded now is newer than every pass, but for the lag. -/
theorem current_of_clocked {now : DateTime} (short : lag ≤ retention)
    (past : ∀ pass ∈ retained.passes, pass.now.nanos ≤ retained.clock)
    (late : retained.clock - lag ≤ now.nanos) (fine : now.timestamptz = now) (id : Uuid)
    (abandoned : Abandoned) : ∀ pass ∈ retained.passes,
      expired pass.now (.of id now abandoned) = false ∧
        Follows lag pass (.of id now abandoned) := by
  intro pass member
  have before := past pass member
  have at_ : (DeadLetter.of id now abandoned).recordedAt.nanos = now.nanos :=
    congrArg DateTime.nanos fine
  have kept : deadLetterRetentionDays * 86400000000000 = retention := rfl
  constructor
  · rw [expired, at_, kept, decide_eq_false_iff_not]
    omega
  · show pass.now.nanos - lag ≤ _
    omega

/-- The clock only goes on. -/
theorem le_read (clock : Int) (now? : Option DateTime) : clock ≤ read clock now? := by
  cases now? with
  | none => exact le_refl clock
  | some now => exact le_max_left clock now.nanos

/-- A step of the intake leaves the log kept. -/
theorem Kept.intake {action : Intake.Action} {after : Intake} (kept : Kept lag retained)
    (short : lag ≤ retention) (clocked : Clocked lag retained (.intake action))
    (other : isPurge action = false)
    (stepped : Intake.step serde errorText retained.intake action = some after) :
    ({ held := after.ledger, added := after.recorded, passes := retained.passes } :
        Retention.Log DeadLetter PurgePass).Kept DeadLetter.commandId
      (fun pass row => expired pass.now row) (Follows lag) ∧
    (retained.passes.flatMap PurgePass.deleted ++ after.ledger).Perm after.recorded := by
  rcases ledger_of_step other stepped with ⟨ledger, recorded⟩ | ⟨id, now, abandoned, reads, ledger,
    recorded⟩
  · rw [ledger, recorded]
    exact ⟨kept.log, kept.whole⟩
  · obtain ⟨late, fine⟩ := clocked now reads
    rw [ledger, recorded]
    refine ⟨?_, ?_⟩
    · rw [Intake.record, log_record]
      exact kept.log.add (current_of_clocked short kept.past late fine id abandoned)
    · rw [Intake.record, ← List.append_assoc]
      exact kept.whole.append_right _

/-- A pass of a process is one of its answered passes when it is answered. -/
theorem passesOf_pass (kept : Kept lag retained) (process other : Nat) (now : DateTime)
    (answered : Bool) :
    (retained.pass process now answered).passesOf other = retained.passesOf other ++
      if process = other ∧ answered = true then
        [{ process := process, now := now,
           deleted := retained.intake.ledger.filter (expired now), answered := true }]
      else [] := by
  unfold passesOf pass
  rw [List.drop_append_of_le_length (kept.begun other), List.filter_append]
  refine congrArg _ ?_
  by_cases own : process = other
  · cases answered with
    | true => simp [own]
    | false => simp
  · simp [own]

/-- A tick of a process that takes effect. -/
theorem Kept.ticked (kept : Kept lag retained) (process : Nat) (now : DateTime)
    (lost : Option SqlxError) :
    Kept lag ((retained.pass process now lost.isNone).counted process
      (retained.answer now lost)) := by
  refine ⟨kept.log.sweep ⟨process, now, retained.intake.ledger.filter (expired now), lost.isNone⟩,
    ?_, ?_, ?_, ?_, ?_, ?_⟩
  · intro pass member
    rcases List.mem_append.mp member with old | new
    · exact (kept.past pass old).trans (le_max_left _ _)
    · rw [List.mem_singleton.mp new]
      exact le_max_right _ _
  · intro pass member row deleted
    rcases List.mem_append.mp member with old | new
    · exact kept.deleted pass old row deleted
    · rw [List.mem_singleton.mp new] at deleted ⊢
      exact (List.mem_filter.mp deleted).2
  · have parted : (retained.intake.ledger.filter (expired now) ++
        deleteExpiredDeadLetters now retained.intake.ledger).Perm retained.intake.ledger :=
      List.filter_append_perm (expired now) retained.intake.ledger
    show ((retained.passes ++ [_]).flatMap PurgePass.deleted ++ _).Perm _
    rw [List.flatMap_append, List.flatMap_singleton, List.append_assoc]
    exact (parted.append_left _).trans kept.whole
  · intro other
    have before := kept.begun other
    show retained.started other ≤ (retained.passes ++ [_]).length
    rw [List.length_append]
    omega
  · intro other
    show _ = ((retained.pass process now lost.isNone).passesOf other).length
    rw [passesOf_pass kept]
    by_cases own : process = other
    · subst own
      cases lost <;> simp [counted, pass, answer, PurgeCounters.tick, kept.counts]
    · simp [counted, pass, own, Ne.symm own, kept.counts]
  · intro other
    show _ = (((retained.pass process now lost.isNone).passesOf other).map _).sum
    rw [passesOf_pass kept]
    by_cases own : process = other
    · subst own
      cases lost <;> simp [counted, pass, answer, PurgeCounters.tick, kept.purged]
    · simp [counted, pass, own, Ne.symm own, kept.purged]

/-- A step of the intake, once it is known to be none of the passes. -/
theorem step_intake {action : Intake.Action} {after : Retained}
    (stepped : step serde errorText retained (.intake action) = some after) :
    isPurge action = false ∧ ∃ intake,
      Intake.step serde errorText retained.intake action = some intake ∧
      after = { retained.restarted action with
        intake := intake, clock := read retained.clock (Action.intake action).now? } := by
  simp only [step] at stepped
  by_cases purges : isPurge action = true
  · rw [if_pos purges] at stepped
    contradiction
  · rw [if_neg purges] at stepped
    refine ⟨Bool.eq_false_iff.mpr purges, ?_⟩
    cases moved : Intake.step serde errorText retained.intake action with
    | none =>
      rw [moved] at stepped
      contradiction
    | some intake =>
      rw [moved] at stepped
      exact ⟨intake, rfl, (Option.some.inj stepped).symm⟩

/-- Every step keeps what is known of the ledger. -/
theorem kept_step {action : Action} {after : Retained} (short : lag ≤ retention)
    (kept : Kept lag retained) (clocked : Clocked lag retained action)
    (stepped : step serde errorText retained action = some after) : Kept lag after := by
  cases action with
  | intake action =>
    obtain ⟨other, intake, moved, rfl⟩ := step_intake stepped
    obtain ⟨log, whole⟩ := kept.intake short clocked other moved
    have past : ∀ pass ∈ retained.passes,
        pass.now.nanos ≤ read retained.clock (Action.intake action).now? := by
      intro pass member
      exact (kept.past pass member).trans (le_read _ _)
    cases action with
    | crash process =>
      -- The counters start over, and so do the passes that they count.
      refine ⟨log, past, kept.deleted, whole, ?_, ?_, ?_⟩
      · intro other
        show Function.update retained.started process retained.passes.length other ≤
          retained.passes.length
        by_cases own : other = process
        · rw [own, Function.update_self]
        · rw [Function.update_of_ne own]
          exact kept.begun other
      · intro other
        by_cases own : other = process
        · subst own
          simp [restarted, passesOf, PurgeCounters.zero]
        · simpa [restarted, passesOf, own] using kept.counts other
      · intro other
        by_cases own : other = process
        · subst own
          simp [restarted, passesOf, PurgeCounters.zero]
        · simpa [restarted, passesOf, own] using kept.purged other
    | _ => exact ⟨log, past, kept.deleted, whole, kept.begun, kept.counts, kept.purged⟩
  | tick process now lost =>
    obtain rfl := Option.some.inj stepped
    exact kept.ticked process now lost
  | tickFails process error =>
    obtain rfl := Option.some.inj stepped
    refine ⟨kept.log, kept.past, kept.deleted, kept.whole, kept.begun, ?_, ?_⟩
    · intro other
      by_cases own : process = other
      · subst own
        simpa [counted, PurgeCounters.tick, passesOf] using kept.counts process
      · simpa [counted, own, Ne.symm own, passesOf] using kept.counts other
    · intro other
      by_cases own : process = other
      · subst own
        simpa [counted, PurgeCounters.tick, passesOf] using kept.purged process
      · simpa [counted, own, Ne.symm own, passesOf] using kept.purged other

end Retained

/-- The ledger is what was recorded, less what some pass found to be older than 90 days, in every
run of any number of processes in which each transaction takes effect within `lag` of its `now()`.
Every row ever recorded is on the ledger or was deleted by exactly one pass, which found it
expired. Two rows of one command are more than the retention apart, less the lag, so a command
that is delivered again within it is on the ledger once. A process's counters are the number of
the passes that it got an answer of since it started, and of the rows that these deleted. -/
theorem retention_is_exact (serde : Serde) (errorText : SqlxError → String) {lag : Int}
    (short : lag ≤ retention) (rows : List Row) (clock : Int) (retained : Retained)
    (reached : Reaches (Retained.step serde errorText) (Retained.Clocked lag)
      (Retained.start rows clock) retained) :
    (retained.intake.ledger = retained.intake.recorded.filter fun row =>
      !retained.passes.any fun pass => expired pass.now row) ∧
    (retained.passes.flatMap PurgePass.deleted ++ retained.intake.ledger).Perm
      retained.intake.recorded ∧
    (∀ pass ∈ retained.passes, ∀ row ∈ pass.deleted, expired pass.now row = true) ∧
    (retained.intake.recorded.Pairwise fun first second => first.commandId = second.commandId →
      first.recordedAt.nanos + retention - lag < second.recordedAt.nanos) ∧
    ∀ process, (retained.counters process).passes = (retained.passesOf process).length ∧
      (retained.counters process).purged =
        ((retained.passesOf process).map fun pass => pass.deleted.length).sum := by
  have kept : Retained.Kept lag retained :=
    reached.invariant
      (fun _ _ _ kept clocked stepped => Retained.kept_step short kept clocked stepped)
      (Retained.start_kept lag rows clock)
  refine ⟨kept.log.held, kept.whole, kept.deleted, kept.log.apart.imp ?_, fun process =>
    ⟨kept.counts process, kept.purged process⟩⟩
  intro first second separated same
  obtain ⟨pass, member, taken, later⟩ := separated same
  have old : first.recordedAt.nanos < pass.now.nanos - retention := of_decide_eq_true taken
  have late : pass.now.nanos - lag ≤ second.recordedAt.nanos := later
  omega

/-- One step of the intake and its passes. -/
def sampleRetainedStep : Retained → Retained.Action → Option Retained :=
  Retained.step sampleSerde fun _ => ""

/-- The end of the day after the last on which a row recorded at the epoch is kept. -/
def samplePastRetention : DateTime := ⟨retention + 86400000000000⟩

/-- The frame is refused, its row is purged, and the frame is refused once more. -/
def sampleRetention : List Retained.Action :=
  [.intake (.deliver 0 sampleRefusedFrame), .intake (.record 0 (sampleId 7) ⟨0⟩),
    .intake (.count 0), .intake (.settle 0 false), .intake (.finish 0), .tick 1 ⟨0⟩ none,
    .tick 1 samplePastRetention none, .intake (.deliver 0 sampleRefusedFrame),
    .intake (.record 0 (sampleId 8) samplePastRetention)]

/-- The ledger after the pass. -/
def samplePurged : Retained :=
  (play sampleRetainedStep (Retained.start [] 0) sampleRetention).get (by decide)

/-- Every instant read is the clock's or later, and in microseconds. -/
def sampleClocked (retained : Retained) (action : Retained.Action) : Bool :=
  match action.now? with
  | some now => decide (retained.clock ≤ now.nanos) && decide (now.timestamptz = now)
  | none => true

/-- One pass has deleted the row, and the process has counted two. -/
theorem retention_is_exact_sample :
    samplePurged.intake.recorded.length = 2 ∧ samplePurged.intake.ledger.length = 1 ∧
    (samplePurged.counters 1).passes = (samplePurged.passesOf 1).length := by
  have clocked : ∀ (retained : Retained) (action : Retained.Action),
      sampleClocked retained action = true → Retained.Clocked 0 retained action := by
    intro retained action checked now reads
    simp only [sampleClocked, reads, Bool.and_eq_true, decide_eq_true_eq] at checked
    exact ⟨by omega, checked.2⟩
  have played : play (fun retained action => if sampleClocked retained action then
      sampleRetainedStep retained action else none) (Retained.start [] 0) sampleRetention =
      some samplePurged := by
    rfl
  have reached : Reaches sampleRetainedStep (Retained.Clocked 0) (Retained.start [] 0)
      samplePurged := ⟨_, steps_of_checked_play played clocked⟩
  refine ⟨by decide, by decide, ?_⟩
  exact ((retention_is_exact sampleSerde (fun _ => "") (by decide) [] 0 samplePurged
    reached).2.2.2.2 1).1

end SvcNotifier
