import SvcNotifier.Process

/-!
# Readiness and the exit code

What the tasks of a process have in common is told step by step: `main` sets readiness once and
reads the flag once, and a live task that ends abnormally is reported by setting readiness and
then sending the flag. Nothing orders the one after the other.
-/

namespace SvcNotifier

open Library

/-- What `main` has read from the flag. -/
def Main.verdict : Main → Option Bool
  | .flagRead terminatedAbnormally => some terminatedAbnormally
  | .flagSent terminatedAbnormally => some terminatedAbnormally
  | .returned terminatedAbnormally => some terminatedAbnormally
  | _ => none

/-- The task has died. -/
def TaskState.dead {α : Type} : TaskState α → Bool
  | .died _ => true
  | _ => false

/-- The intake's loop has failed, and says so. -/
def Consume.alarmed : Consume → Bool
  | .failing _ => true
  | .failed => true
  | _ => false

/-- The supervised task has died, and the supervisor says so. -/
def Supervise.alarmed : Supervise → Bool
  | .failing _ => true
  | .failed => true
  | _ => false

/-- The intake has died, or its loop has failed and says so. -/
def TaskState.alarmed : TaskState Consume → Bool
  | .running at_ => at_.alarmed
  | .died _ => true
  | _ => false

namespace Process

variable {process after : Process}

/-- A live task has died, or an abnormal ending is being reported. -/
def alarmed (process : Process) : Bool :=
  process.listener.dead || process.intake.alarmed ||
    (process.supervisors .listener).alarmed || (process.supervisors .intake).alarmed

/-- A task has set readiness and is about to send the flag. -/
def sending (process : Process) : Bool :=
  process.intake == .running .failed || process.supervisors .listener == .failed ||
    process.supervisors .intake == .failed

/-- The step is the one by which a task reports an abnormal ending. -/
def Reports (process : Process) : Action → Prop
  | .intake _ => ∃ reason, process.intake = .running (.failing reason)
  | .supervise task => ∃ reason, process.supervisors task = .failing reason
  | _ => False

/-- Nothing that the tasks share has been touched, and no alarm has been raised or dropped. -/
structure Aside (process after : Process) : Prop where
  /-- Readiness is left alone. -/
  readiness : after.readiness = process.readiness
  /-- The flag is left alone. -/
  shutdown : after.shutdown = process.shutdown
  /-- No task has ended abnormally. -/
  endings : after.endings = process.endings
  /-- No ending has been reported. -/
  reports : after.reports = process.reports
  /-- An alarm was raised before. -/
  alarmed : after.alarmed = true → process.alarmed = true
  /-- No task has come to send the flag, and none has sent it. -/
  sending : after.sending = process.sending

/-- What one step does to what the tasks share. -/
inductive Moves (process : Process) : Action → Process → Prop where
  /-- `main` sets readiness. -/
  | setReady (at_ : process.main = .portBound) :
      Moves process .main { process with main := .ready, readiness := .ready }
  /-- `main` reads the flag. -/
  | readFlag (at_ : process.main = .served) :
      Moves process .main { process with main := .flagRead process.shutdown }
  /-- `main` sends the flag. -/
  | sendFlag {terminatedAbnormally : Bool} (at_ : process.main = .flagRead terminatedAbnormally) :
      Moves process .main { process.sendShutdown with main := .flagSent terminatedAbnormally }
  /-- `main` or a task goes on by itself. -/
  | aside {action : Action} {after : Process} (verdict : after.main.verdict = process.main.verdict)
      (aside : process.Aside after) : Moves process action after
  /-- A live task ends abnormally. -/
  | ends {action : Action} {after : Process} {reason : String} (main : after.main = process.main)
      (readiness : after.readiness = process.readiness)
      (shutdown : after.shutdown = process.shutdown)
      (endings : after.endings = process.endings ++ [reason])
      (reports : after.reports = process.reports)
      (sending : after.sending = process.sending) : Moves process action after
  /-- An abnormal ending is reported. -/
  | report {action : Action} {after : Process} {reason : String}
      (reporting : process.Reports action)
      (alarmed : process.alarmed = true) (main : after.main = process.main)
      (readiness : after.readiness = .notReady reason)
      (shutdown : after.shutdown = process.shutdown) (endings : after.endings = process.endings)
      (reports : after.reports = process.reports ++ [reason])
      (sending : after.sending = true) : Moves process action after
  /-- The flag is sent after a report. -/
  | send {action : Action} {after : Process} (alarmed : process.alarmed = true)
      (sending : process.sending = true) (main : after.main = process.main)
      (readiness : after.readiness = process.readiness)
      (shutdown : after.shutdown = true) (endings : after.endings = process.endings)
      (reports : after.reports = process.reports) : Moves process action after

/-- How far `main` has come. -/
def rank : Main → Nat
  | .starting => 0
  | .listenerSpawned => 1
  | .listenerSupervised => 2
  | .intakeBound => 3
  | .intakeSpawned => 4
  | .spawned => 5
  | .portBound => 6
  | .ready => 7
  | .serving => 8
  | .draining => 9
  | .served => 10
  | .flagRead _ => 11
  | .flagSent _ => 12
  | .returned _ => 13
  | .failed => 13

/-- `main` ends at last. -/
theorem rank_le (main : Main) : rank main ≤ 13 := by
  cases main with
  | flagRead _ => exact Nat.le_of_ble_eq_true rfl
  | flagSent _ => exact Nat.le_of_ble_eq_true rfl
  | returned _ => exact Nat.le_refl 13
  | _ => decide

/-- Nothing runs before `main` has spawned it. -/
structure Spawned (process : Process) : Prop where
  /-- The supervisor of the listener. -/
  listener : rank process.main < 2 → process.supervisors .listener = .unspawned
  /-- The intake. -/
  intake : rank process.main < 4 → process.intake = .unspawned
  /-- The supervisor of the intake. -/
  supervisor : rank process.main < 5 → process.supervisors .intake = .unspawned

/-! ## Alarms -/

/-- A supervisor that says so raises the alarm. -/
theorem alarmed_of_supervisor (task : LiveTask)
    (raised : (process.supervisors task).alarmed = true) : process.alarmed = true := by
  unfold alarmed
  cases task with
  | listener => simp [raised]
  | intake => simp [raised]

/-- A supervisor moves on: the alarm is raised by it, or was raised before. -/
theorem alarmed_setSupervisor {task : LiveTask} {later : Supervise}
    (raised : (process.setSupervisor task later).alarmed = true) :
    process.alarmed = true ∨ later.alarmed = true := by
  by_cases silent : later.alarmed = true
  · exact Or.inr silent
  · left
    unfold alarmed at raised ⊢
    cases task with
    | listener =>
      have other := process.setSupervisor_other later (show LiveTask.intake ≠ .listener by decide)
      rw [setSupervisor_self, other, Bool.eq_false_iff.mpr silent, Bool.or_false] at raised
      have elsewhere : (process.listener.dead || process.intake.alarmed) = true ∨
          (process.supervisors .intake).alarmed = true := Bool.or_eq_true_iff.mp raised
      rcases elsewhere with task | supervisor
      · simp [task]
      · simp [supervisor]
    | intake =>
      have other := process.setSupervisor_other later (show LiveTask.listener ≠ .intake by decide)
      rw [setSupervisor_self, other, Bool.eq_false_iff.mpr silent, Bool.or_false] at raised
      have elsewhere : (process.listener.dead || process.intake.alarmed ||
          (process.supervisors .listener).alarmed) = true := raised
      simp [elsewhere]

/-- The intake moves on: the alarm is raised by it, or was raised before. -/
theorem alarmed_setIntake {later : TaskState Consume}
    (raised : (process.setIntake later).alarmed = true) :
    process.alarmed = true ∨ later.alarmed = true := by
  by_cases silent : later.alarmed = true
  · exact Or.inr silent
  · left
    have kept : (process.listener.dead || later.alarmed ||
      (process.supervisors .listener).alarmed || (process.supervisors .intake).alarmed) = true :=
        raised
    rw [Bool.eq_false_iff.mpr silent, Bool.or_false] at kept
    unfold alarmed
    cases process.intake.alarmed with
    | true => simp
    | false => simpa using kept

/-- A supervisor that is about to send. -/
theorem sending_of_supervisor {task : LiveTask} (at_ : process.supervisors task = .failed) :
    process.sending = true := by
  unfold sending
  cases task with
  | listener => simp [at_]
  | intake => simp [at_]

/-- A supervisor moves on that has not come to send, and does not come to it. -/
theorem sending_setSupervisor {task : LiveTask} {later : Supervise}
    (was : process.supervisors task ≠ .failed) (next : later ≠ .failed) :
    (process.setSupervisor task later).sending = process.sending := by
  unfold sending
  cases task with
  | listener =>
    have other := process.setSupervisor_other later (show LiveTask.intake ≠ .listener by decide)
    rw [setSupervisor_self, other, beq_false_of_ne next, beq_false_of_ne was]
    rfl
  | intake =>
    have other := process.setSupervisor_other later (show LiveTask.listener ≠ .intake by decide)
    rw [setSupervisor_self, other, beq_false_of_ne next, beq_false_of_ne was]
    rfl

/-- The intake moves on that has not come to send, and does not come to it. -/
theorem sending_setIntake {later : TaskState Consume} (was : process.intake ≠ .running .failed)
    (next : later ≠ .running .failed) : (process.setIntake later).sending = process.sending := by
  show (later == .running .failed || _ || _) = (process.intake == .running .failed || _ || _)
  rw [beq_false_of_ne next, beq_false_of_ne was]
  rfl

/-- The loop of the intake moves on without failing. -/
theorem aside_setIntake {later : TaskState Consume} (silent : later.alarmed = false)
    (was : process.intake ≠ .running .failed) : process.Aside (process.setIntake later) := by
  have next : later ≠ .running .failed := by
    rintro rfl
    contradiction
  refine ⟨rfl, rfl, rfl, rfl, ?_, sending_setIntake was next⟩
  intro raised
  have either := alarmed_setIntake raised
  rw [silent] at either
  exact either.resolve_right Bool.false_ne_true

/-- A supervisor moves on, and raises no alarm that was not raised. -/
theorem aside_setSupervisor {task : LiveTask} {later : Supervise}
    (raises : later.alarmed = true → process.alarmed = true)
    (was : process.supervisors task ≠ .failed) (next : later ≠ .failed) :
    process.Aside (process.setSupervisor task later) := by
  refine ⟨rfl, rfl, rfl, rfl, ?_, sending_setSupervisor was next⟩
  intro raised
  exact (alarmed_setSupervisor raised).elim id raises

/-! ## What one step does -/

/-- A task or `main` goes on where `main` stands elsewhere. -/
theorem Aside.at_ (aside : process.Aside after) (main : Main) :
    process.Aside { after with main := main } :=
  ⟨aside.readiness, aside.shutdown, aside.endings, aside.reports, aside.alarmed, aside.sending⟩

/-- Nothing has happened. -/
theorem Aside.refl (process : Process) : process.Aside process :=
  ⟨rfl, rfl, rfl, rfl, fun raised => raised, rfl⟩

/-- What happens on the port leaves everything but the open connections where it is. -/
theorem rest_of_runTraffic {traffic : Traffic} (ran : process.runTraffic traffic = some after) :
    after = { process with connections := after.connections } := by
  cases traffic with
  | opens =>
    simp only [runTraffic] at ran
    split at ran
    case h_1 =>
      obtain rfl := Option.some.inj ran
      rfl
    case h_2 => contradiction
  | serves =>
    simp only [runTraffic] at ran
    split at ran
    case isTrue =>
      obtain rfl := Option.some.inj ran
      rfl
    case isFalse => contradiction
  | ends =>
    simp only [runTraffic] at ran
    split at ran
    case isTrue =>
      obtain rfl := Option.some.inj ran
      rfl
    case isFalse => contradiction

/-- What `main` does. -/
theorem moves_of_runMain (spawned : process.Spawned) (ran : process.runMain = some after) :
    process.Moves .main after := by
  unfold runMain at ran
  split at ran
  case h_1 at_ =>
    obtain rfl := Option.some.inj ran
    refine .aside (by rw [at_]; rfl) ⟨rfl, rfl, rfl, rfl, ?_, rfl⟩
    intro raised
    have others : (false || process.intake.alarmed || (process.supervisors .listener).alarmed ||
      (process.supervisors .intake).alarmed) = true := raised
    rw [Bool.false_or] at others
    unfold alarmed
    cases process.listener.dead with
    | true => simp
    | false => simpa using others
  case h_2 at_ =>
    obtain rfl := Option.some.inj ran
    have unspawned := spawned.listener (by rw [at_]; decide)
    have quiet : process.Aside (process.setSupervisor .listener .awaiting) := by
      apply aside_setSupervisor
      · intro raised
        contradiction
      · rw [unspawned]
        decide
      · decide
    exact .aside (by rw [at_]; rfl) (quiet.at_ _)
  case h_3 at_ =>
    obtain rfl := Option.some.inj ran
    refine .aside ?_ ((Aside.refl process).at_ _)
    rw [at_]
    cases process.natsUrl with
    | true => rfl
    | false => rfl
  case h_4 at_ =>
    obtain rfl := Option.some.inj ran
    have unspawned := spawned.intake (by rw [at_]; decide)
    have quiet : process.Aside (process.setIntake (.running (.polling 0))) := by
      apply aside_setIntake rfl
      rw [unspawned]
      decide
    exact .aside (by rw [at_]; rfl) (quiet.at_ _)
  case h_5 at_ =>
    obtain rfl := Option.some.inj ran
    have unspawned := spawned.supervisor (by rw [at_]; decide)
    have quiet : process.Aside (process.setSupervisor .intake .awaiting) := by
      apply aside_setSupervisor
      · intro raised
        contradiction
      · rw [unspawned]
        decide
      · decide
    exact .aside (by rw [at_]; rfl) (quiet.at_ _)
  case h_7 at_ =>
    obtain rfl := Option.some.inj ran
    exact .setReady at_
  case h_9 at_ =>
    by_cases down : process.shutdown = true
    · rw [if_pos down] at ran
      obtain rfl := Option.some.inj ran
      exact .aside (by rw [at_]; rfl) ((Aside.refl process).at_ _)
    · rw [if_neg down] at ran
      contradiction
  case h_10 at_ =>
    by_cases drained : process.connections = 0
    · rw [if_pos drained] at ran
      obtain rfl := Option.some.inj ran
      exact .aside (by rw [at_]; rfl) ((Aside.refl process).at_ _)
    · rw [if_neg drained] at ran
      contradiction
  case h_11 at_ =>
    obtain rfl := Option.some.inj ran
    exact .readFlag at_
  case h_12 terminatedAbnormally at_ =>
    obtain rfl := Option.some.inj ran
    exact .sendFlag at_
  case h_14 at_ => contradiction
  case h_15 at_ => contradiction
  -- The statements that bind, serve or return.
  all_goals
    rename_i at_
    obtain rfl := Option.some.inj ran
    exact .aside (by rw [at_]; rfl) ((Aside.refl process).at_ _)

/-- What the loop of the intake does. -/
theorem moves_of_runIntake {received : Recv} (ran : process.runIntake received = some after) :
    process.Moves (.intake received) after := by
  unfold runIntake at ran
  split at ran
  case h_1 consecutiveErrors at_ =>
    have was : process.intake ≠ .running .failed := by
      rw [at_]
      simp
    by_cases down : process.shutdown = true
    · rw [if_pos down] at ran
      obtain rfl := Option.some.inj ran
      exact .aside rfl (aside_setIntake rfl was)
    · rw [if_neg down] at ran
      obtain rfl := Option.some.inj ran
      exact .aside rfl (aside_setIntake rfl was)
  case h_2 consecutiveErrors at_ =>
    have was : process.intake ≠ .running .failed := by
      rw [at_]
      simp
    have fails : ∀ reason, process.Moves (.intake received) (process.failIntake reason) := by
      intro reason
      exact .ends rfl rfl rfl rfl rfl (sending_setIntake was (by simp))
    cases received with
    | delivered =>
      obtain rfl := Option.some.inj ran
      exact .aside rfl (aside_setIntake rfl was)
    | closed =>
      obtain rfl := Option.some.inj ran
      exact fails _
    | error =>
      by_cases past : maxConsecutiveRecvErrors ≤ consecutiveErrors + 1
      · simp only [if_pos past] at ran
        obtain rfl := Option.some.inj ran
        exact fails _
      · simp only [if_neg past] at ran
        obtain rfl := Option.some.inj ran
        exact .aside rfl (aside_setIntake rfl was)
  case h_3 reason at_ =>
    obtain rfl := Option.some.inj ran
    refine .report ⟨reason, at_⟩ ?_ rfl rfl rfl rfl rfl rfl
    unfold alarmed
    rw [at_]
    simp [TaskState.alarmed, Consume.alarmed]
  case h_4 at_ =>
    obtain rfl := Option.some.inj ran
    refine .send ?_ ?_ rfl rfl rfl rfl rfl
    · unfold alarmed
      rw [at_]
      simp [TaskState.alarmed, Consume.alarmed]
    · simp [sending, at_]
  case h_5 at_ =>
    obtain rfl := Option.some.inj ran
    have was : process.intake ≠ .running .failed := by
      rw [at_]
      simp
    exact .aside rfl (aside_setIntake rfl was)
  case h_6 => contradiction

/-- A handle that resolves to an error is of a task that has died. -/
theorem alarmed_of_ending {task : LiveTask} {error : JoinError}
    (resolved : process.ending task = some (some error)) : process.alarmed = true := by
  unfold alarmed
  cases task with
  | listener =>
    unfold ending at resolved
    cases at_ : process.listener with
    | died died => simp [TaskState.dead]
    | _ => simp [at_] at resolved
  | intake =>
    unfold ending at resolved
    cases at_ : process.intake with
    | died died => simp [TaskState.alarmed]
    | _ => simp [at_] at resolved

/-- What a supervisor does. -/
theorem moves_of_runSupervisor {task : LiveTask}
    (ran : process.runSupervisor task = some after) :
    process.Moves (.supervise task) after := by
  unfold runSupervisor at ran
  split at ran
  case h_1 at_ =>
    have was : process.supervisors task ≠ .failed := by
      rw [at_]
      simp
    split at ran
    case h_1 resolved =>
      obtain rfl := Option.some.inj ran
      refine .aside rfl (aside_setSupervisor ?_ was (by decide))
      intro raised
      contradiction
    case h_2 error resolved =>
      obtain rfl := Option.some.inj ran
      exact .aside rfl (aside_setSupervisor (fun _ => alarmed_of_ending resolved) was (by simp))
    case h_3 => contradiction
  case h_2 reason at_ =>
    obtain rfl := Option.some.inj ran
    refine .report ⟨reason, at_⟩ ?_ rfl rfl rfl rfl rfl ?_
    · apply alarmed_of_supervisor task
      rw [at_]
      rfl
    · exact sending_of_supervisor (setSupervisor_self _ task .failed)
  case h_3 at_ =>
    obtain rfl := Option.some.inj ran
    refine .send ?_ (sending_of_supervisor at_) rfl rfl rfl rfl rfl
    apply alarmed_of_supervisor task
    rw [at_]
    rfl
  case h_4 => contradiction

/-- What the end of a task does. -/
theorem moves_of_die {task : LiveTask} {error : JoinError}
    (ran : process.die error task = some after) : process.Moves (.die task error) after := by
  cases task with
  | listener =>
    simp only [die] at ran
    split at ran
    case h_1 at_ =>
      obtain rfl := Option.some.inj ran
      exact .ends rfl rfl rfl rfl rfl rfl
    case h_2 => contradiction
  | intake =>
    simp only [die] at ran
    split at ran
    case h_1 => contradiction
    case h_2 => contradiction
    case h_3 at_ unfailing unfailed running =>
      obtain rfl := Option.some.inj ran
      have was : process.intake ≠ .running .failed := by
        rw [running]
        intro same
        exact unfailed (TaskState.running.inj same)
      exact .ends rfl rfl rfl rfl rfl (sending_setIntake was (by simp))
    case h_4 => contradiction

/-- What one step does to what the tasks share. -/
theorem moves_of_step {action : Action} (spawned : process.Spawned)
    (stepped : process.step action = some after) : process.Moves action after := by
  cases action with
  | main =>
    rw [step_main (running_of_step stepped)] at stepped
    exact moves_of_runMain spawned stepped
  | fail =>
    obtain ⟨may, rfl⟩ := step_fail stepped
    refine .aside ?_ ((Aside.refl process).at_ _)
    unfold fallible at may
    split at may
    case h_4 => contradiction
    all_goals
      rename_i at_
      rw [at_]
      rfl
  | signal =>
    obtain ⟨at_, rfl⟩ := step_signal stepped
    exact .aside (by rw [at_]; rfl) ((Aside.refl process).at_ _)
  | traffic traffic =>
    rw [rest_of_runTraffic (step_traffic stepped)]
    exact .aside rfl ⟨rfl, rfl, rfl, rfl, fun raised => raised, rfl⟩
  | intake received => exact moves_of_runIntake (step_intake stepped)
  | wake =>
    have woken := step_wake stepped
    unfold wakeIntake at woken
    split at woken
    case h_1 consecutiveErrors at_ =>
      obtain rfl := Option.some.inj woken
      have was : process.intake ≠ .running .failed := by
        rw [at_]
        simp
      exact .aside rfl (aside_setIntake rfl was)
    case h_2 => contradiction
  | die task error => exact moves_of_die (step_die stepped)
  | supervise task => exact moves_of_runSupervisor (step_supervise stepped)

/-! ## What has been spawned -/

/-- `main` goes on. -/
theorem Spawned.advance (spawned : process.Spawned) (main : Main)
    (onward : rank process.main ≤ rank main) : ({ process with main := main } : Process).Spawned :=
  ⟨fun early => spawned.listener (Nat.lt_of_le_of_lt onward early),
    fun early => spawned.intake (Nat.lt_of_le_of_lt onward early),
    fun early => spawned.supervisor (Nat.lt_of_le_of_lt onward early)⟩

/-- `main` spawns one after the other. -/
theorem Spawned.runMain (spawned : process.Spawned) (ran : process.runMain = some after) :
    after.Spawned := by
  unfold Process.runMain at ran
  split at ran
  case h_1 at_ =>
    obtain rfl := Option.some.inj ran
    have still := spawned.advance .listenerSpawned (by rw [at_]; decide)
    exact ⟨still.listener, still.intake, still.supervisor⟩
  case h_2 at_ =>
    obtain rfl := Option.some.inj ran
    have apart : LiveTask.intake ≠ .listener := by decide
    refine ⟨fun early => absurd early (Nat.lt_irrefl 2), fun _ => ?_, fun _ => ?_⟩
    · exact spawned.intake (by rw [at_]; decide)
    · exact (process.setSupervisor_other .awaiting apart).trans
        (spawned.supervisor (by rw [at_]; decide))
  case h_4 at_ =>
    obtain rfl := Option.some.inj ran
    have far : ¬ (4 : Nat) < 2 := by decide
    refine ⟨fun early => absurd early far, fun early => absurd early (Nat.lt_irrefl 4),
      fun _ => ?_⟩
    exact spawned.supervisor (by rw [at_]; decide)
  case h_5 at_ =>
    obtain rfl := Option.some.inj ran
    have far : ¬ (5 : Nat) < 2 := by decide
    have past : ¬ (5 : Nat) < 4 := by decide
    exact ⟨fun early => absurd early far, fun early => absurd early past,
      fun early => absurd early (Nat.lt_irrefl 5)⟩
  case h_3 at_ =>
    obtain rfl := Option.some.inj ran
    apply spawned.advance
    rw [at_]
    cases process.natsUrl with
    | true => decide
    | false => decide
  case h_9 at_ =>
    by_cases down : process.shutdown = true
    · rw [if_pos down] at ran
      obtain rfl := Option.some.inj ran
      exact spawned.advance _ (by rw [at_]; decide)
    · rw [if_neg down] at ran
      contradiction
  case h_10 at_ =>
    by_cases drained : process.connections = 0
    · rw [if_pos drained] at ran
      obtain rfl := Option.some.inj ran
      exact spawned.advance _ (by rw [at_]; exact Nat.le_succ 9)
    · rw [if_neg drained] at ran
      contradiction
  case h_14 at_ => contradiction
  case h_15 at_ => contradiction
  case h_7 at_ =>
    obtain rfl := Option.some.inj ran
    have still := spawned.advance .ready (by rw [at_]; decide)
    exact ⟨still.listener, still.intake, still.supervisor⟩
  case h_11 at_ =>
    obtain rfl := Option.some.inj ran
    exact spawned.advance _ (by rw [at_]; exact Nat.le_succ 10)
  case h_12 terminatedAbnormally at_ =>
    obtain rfl := Option.some.inj ran
    have still := spawned.advance (.flagSent terminatedAbnormally)
      (by rw [at_]; exact Nat.le_succ 11)
    exact ⟨still.listener, still.intake, still.supervisor⟩
  case h_13 terminatedAbnormally at_ =>
    obtain rfl := Option.some.inj ran
    exact spawned.advance _ (by rw [at_]; exact Nat.le_succ 12)
  all_goals
    rename_i at_
    obtain rfl := Option.some.inj ran
    exact spawned.advance _ (by rw [at_]; decide)

/-- The intake moves on by itself, or dies. -/
theorem Spawned.ofIntake (spawned : process.Spawned) (was : process.intake ≠ .unspawned)
    (main : after.main = process.main) (supervisors : after.supervisors = process.supervisors) :
    after.Spawned := by
  have same : rank after.main = rank process.main := by rw [main]
  refine ⟨fun early => ?_, fun early => ?_, fun early => ?_⟩
  · rw [supervisors]
    exact spawned.listener (same ▸ early)
  · exact absurd (spawned.intake (same ▸ early)) was
  · rw [supervisors]
    exact spawned.supervisor (same ▸ early)

/-- `main` leaves alone what it has spawned. -/
theorem rest_of_runMain (spawned : process.Spawned) (ran : process.runMain = some after) :
    (∀ task, process.supervisors task ≠ .unspawned →
      after.supervisors task = process.supervisors task) ∧
    (process.intake ≠ .unspawned → after.intake = process.intake) := by
  unfold runMain at ran
  split at ran
  case h_2 at_ =>
    obtain rfl := Option.some.inj ran
    refine ⟨?_, fun _ => rfl⟩
    intro task was
    have unspawned := spawned.listener (by rw [at_]; decide)
    apply process.setSupervisor_other
    intro same
    exact was (same ▸ unspawned)
  case h_4 at_ =>
    obtain rfl := Option.some.inj ran
    exact ⟨fun _ _ => rfl, fun was => absurd (spawned.intake (by rw [at_]; decide)) was⟩
  case h_5 at_ =>
    obtain rfl := Option.some.inj ran
    refine ⟨?_, fun _ => rfl⟩
    intro task was
    have unspawned := spawned.supervisor (by rw [at_]; decide)
    apply process.setSupervisor_other
    intro same
    exact was (same ▸ unspawned)
  case h_9 =>
    by_cases down : process.shutdown = true
    · rw [if_pos down] at ran
      obtain rfl := Option.some.inj ran
      exact ⟨fun _ _ => rfl, fun _ => rfl⟩
    · rw [if_neg down] at ran
      contradiction
  case h_10 =>
    by_cases drained : process.connections = 0
    · rw [if_pos drained] at ran
      obtain rfl := Option.some.inj ran
      exact ⟨fun _ _ => rfl, fun _ => rfl⟩
    · rw [if_neg drained] at ran
      contradiction
  case h_14 => contradiction
  case h_15 => contradiction
  all_goals
    obtain rfl := Option.some.inj ran
    exact ⟨fun _ _ => rfl, fun _ => rfl⟩

/-- The loop of the intake leaves `main`, the supervisors and the open connections where they are.
-/
theorem rest_of_runIntake {received : Recv} (ran : process.runIntake received = some after) :
    process.intake ≠ .unspawned ∧ after.main = process.main ∧
      after.supervisors = process.supervisors ∧ after.connections = process.connections := by
  unfold runIntake at ran
  split at ran
  case h_6 => contradiction
  all_goals
    rename_i at_
    refine ⟨by rw [at_]; simp, ?_⟩
  case h_1 =>
    split at ran
    all_goals
      obtain rfl := Option.some.inj ran
      exact ⟨rfl, rfl, rfl⟩
  case h_2 =>
    split at ran
    case h_3 =>
      split at ran
      all_goals
        obtain rfl := Option.some.inj ran
        exact ⟨rfl, rfl, rfl⟩
    all_goals
      obtain rfl := Option.some.inj ran
      exact ⟨rfl, rfl, rfl⟩
  all_goals
    obtain rfl := Option.some.inj ran
    exact ⟨rfl, rfl, rfl⟩

/-- The flag that wakes the intake leaves `main`, the supervisors and the open connections where
they are. -/
theorem rest_of_wakeIntake (ran : process.wakeIntake = some after) :
    process.intake ≠ .unspawned ∧ after.main = process.main ∧
      after.supervisors = process.supervisors ∧ after.connections = process.connections := by
  unfold wakeIntake at ran
  split at ran
  case h_1 at_ =>
    obtain rfl := Option.some.inj ran
    exact ⟨by rw [at_]; simp, rfl, rfl, rfl⟩
  case h_2 => contradiction

/-- A task that dies leaves `main`, the supervisors and the open connections where they are. -/
theorem rest_of_die {task : LiveTask} {error : JoinError}
    (ran : process.die error task = some after) :
    (process.intake = .unspawned → after.intake = .unspawned) ∧ after.main = process.main ∧
      after.supervisors = process.supervisors ∧ after.connections = process.connections := by
  cases task with
  | listener =>
    simp only [die] at ran
    split at ran
    case h_1 =>
      obtain rfl := Option.some.inj ran
      exact ⟨id, rfl, rfl, rfl⟩
    case h_2 => contradiction
  | intake =>
    simp only [die] at ran
    split at ran
    case h_3 running =>
      obtain rfl := Option.some.inj ran
      refine ⟨?_, rfl, rfl, rfl⟩
      intro unspawned
      rw [unspawned] at running
      contradiction
    all_goals contradiction

/-- A supervisor leaves everything but itself where it is. -/
theorem rest_of_runSupervisor {task : LiveTask} (ran : process.runSupervisor task = some after) :
    process.supervisors task ≠ .unspawned ∧ after.main = process.main ∧
      after.intake = process.intake ∧
      (∀ other, other ≠ task → after.supervisors other = process.supervisors other) ∧
      after.connections = process.connections := by
  unfold runSupervisor at ran
  split at ran
  case h_4 => contradiction
  all_goals
    rename_i at_
    refine ⟨by rw [at_]; simp, ?_⟩
  case h_1 =>
    split at ran
    case h_3 => contradiction
    all_goals
      obtain rfl := Option.some.inj ran
      exact ⟨rfl, rfl, fun other apart => process.setSupervisor_other _ apart, rfl⟩
  case h_2 reason =>
    obtain rfl := Option.some.inj ran
    exact ⟨rfl, rfl, fun other apart => (process.setNotReady reason).setSupervisor_other _ apart,
      rfl⟩
  case h_3 =>
    obtain rfl := Option.some.inj ran
    exact ⟨rfl, rfl, fun other apart => process.sendShutdown.setSupervisor_other _ apart, rfl⟩

/-- A step of a supervisor. -/
theorem Spawned.runSupervisor (spawned : process.Spawned) {task : LiveTask}
    (ran : process.runSupervisor task = some after) : after.Spawned := by
  obtain ⟨was, main, intake, others, -⟩ := rest_of_runSupervisor ran
  have same : rank after.main = rank process.main := by rw [main]
  have kept : ∀ other, process.supervisors other = .unspawned →
      after.supervisors other = .unspawned := by
    intro other unspawned
    have apart : other ≠ task := by
      intro same
      rw [same] at unspawned
      exact was unspawned
    exact (others other apart).trans unspawned
  refine ⟨fun early => kept _ (spawned.listener (same ▸ early)), fun early => ?_,
    fun early => kept _ (spawned.supervisor (same ▸ early))⟩
  rw [intake]
  exact spawned.intake (same ▸ early)

/-- Nothing runs before it is spawned, after any step. -/
theorem spawned_step {action : Action} (spawned : process.Spawned)
    (stepped : process.step action = some after) : after.Spawned := by
  cases action with
  | main =>
    rw [step_main (running_of_step stepped)] at stepped
    exact spawned.runMain stepped
  | fail =>
    obtain ⟨_, rfl⟩ := step_fail stepped
    exact spawned.advance _ (rank_le process.main)
  | signal =>
    obtain ⟨at_, rfl⟩ := step_signal stepped
    exact spawned.advance _ (by rw [at_]; decide)
  | traffic traffic =>
    rw [rest_of_runTraffic (step_traffic stepped)]
    exact ⟨spawned.listener, spawned.intake, spawned.supervisor⟩
  | intake received =>
    obtain ⟨was, main, supervisors, -⟩ := rest_of_runIntake (step_intake stepped)
    exact spawned.ofIntake was main supervisors
  | wake =>
    obtain ⟨was, main, supervisors, -⟩ := rest_of_wakeIntake (step_wake stepped)
    exact spawned.ofIntake was main supervisors
  | die task error =>
    obtain ⟨intake, main, supervisors, -⟩ := rest_of_die (step_die stepped)
    have same : rank after.main = rank process.main := by rw [main]
    refine ⟨fun early => ?_, fun early => intake (spawned.intake (same ▸ early)), fun early => ?_⟩
    · rw [supervisors]
      exact spawned.listener (same ▸ early)
    · rw [supervisors]
      exact spawned.supervisor (same ▸ early)
  | supervise task => exact spawned.runSupervisor (step_supervise stepped)

/-- Nothing runs when the process starts. -/
theorem spawned_start (natsUrl : Bool) : (start natsUrl).Spawned :=
  ⟨fun _ => rfl, fun _ => rfl, fun _ => rfl⟩

/-- Nothing runs before it is spawned, in any run. -/
theorem spawned_of_reaches {natsUrl : Bool} {guard : Process → Action → Prop}
    (reached : Reaches step guard (start natsUrl) process) : process.Spawned :=
  reached.invariant (fun _ _ _ spawned _ stepped => spawned_step spawned stepped)
    (spawned_start natsUrl)

end Process

end SvcNotifier
