import SvcNotifier.Library.Runs

/-!
# `main.rs`

One process from its boot to its exit: `main`, the two live tasks with their supervisors, the
loop of the intake and the connections that `axum::serve` has accepted. They share the readiness
handle, which holds the last value set, and the shutdown flag. Each runs on its own, so that any
of them may take the next step; what a task does between two of its `await`s and touches nothing
shared is one step. The maintenance task sets neither and is left out. A process that has exited
takes no more steps.
-/

namespace SvcNotifier

open Library

/-- What `ReadinessHandle` holds. -/
inductive Readiness where
  /-- `/readyz` answers 200. -/
  | ready
  /-- `/readyz` answers 503, with the reason. -/
  | notReady (reason : String)
  deriving DecidableEq, Repr

/-- The tasks that are supervised. -/
inductive LiveTask where
  /-- The realtime listener. -/
  | listener
  /-- The consumer of the delivery commands. -/
  | intake
  deriving DecidableEq, Repr

/-- The name a task is supervised under. -/
def LiveTask.name : LiveTask → String
  | .listener => "realtime-listener"
  | .intake => "intake"

/-- `JoinError`. -/
inductive JoinError where
  /-- `is_panic()`. -/
  | panic
  /-- Any other error. -/
  | cancelled
  deriving DecidableEq, Repr

/-- The word of `abnormal_ending`. -/
def JoinError.ending : JoinError → String
  | .panic => "panicked"
  | .cancelled => "was cancelled"

/-- The reason `supervise` gives. -/
def endingReason (task : LiveTask) (error : JoinError) : String :=
  task.name ++ " task " ++ error.ending

/-- A spawned task, as its `JoinHandle` shows it, with where it stands while it runs. -/
inductive TaskState (α : Type) where
  /-- `main` has not spawned it yet. -/
  | unspawned
  /-- It runs, and stands there. -/
  | running (at_ : α)
  /-- Its handle resolves to `Ok`. -/
  | returned
  /-- Its handle resolves to an error. -/
  | died (error : JoinError)
  deriving DecidableEq, Repr

/-- `MAX_CONSECUTIVE_RECV_ERRORS`. -/
def maxConsecutiveRecvErrors : Nat := 10

/-- Where `consume` stands. -/
inductive Consume where
  /-- About to poll `shutdown.changed()`, which the `select!` polls first. -/
  | polling (consecutiveErrors : Nat)
  /-- In `recv` or `handle`: the flag had not been sent. -/
  | receiving (consecutiveErrors : Nat)
  /-- In `fail_loud`, about to set readiness. -/
  | failing (reason : String)
  /-- In `fail_loud`, about to send the flag. -/
  | failed
  /-- Out of the loop. -/
  | draining
  deriving DecidableEq, Repr

/-- What `recv` gives. -/
inductive Recv where
  /-- A delivery, which is handled. -/
  | delivered
  /-- `None`: the stream has ended. -/
  | closed
  /-- An error of the transport. -/
  | error
  deriving DecidableEq, Repr

/-- Where `supervise` stands. -/
inductive Supervise where
  /-- `main` has not spawned it yet. -/
  | unspawned
  /-- Awaiting the task. -/
  | awaiting
  /-- About to set readiness. -/
  | failing (reason : String)
  /-- About to send the flag. -/
  | failed
  /-- Nothing is left to supervise. -/
  | returned
  deriving DecidableEq, Repr

/-- Where `main` stands. -/
inductive Main where
  /-- Before the listener is spawned. -/
  | starting
  /-- The listener is spawned. -/
  | listenerSpawned
  /-- Its supervisor is spawned as well. -/
  | listenerSupervised
  /-- The intake's consumer is bound. -/
  | intakeBound
  /-- The intake is spawned. -/
  | intakeSpawned
  /-- Every task is spawned. -/
  | spawned
  /-- The port is bound. -/
  | portBound
  /-- `set_ready` has been called. -/
  | ready
  /-- In `axum::serve`, which polls `shutdown_signal`. -/
  | serving
  /-- `shutdown_signal` has returned: `axum::serve` waits for the open connections. -/
  | draining
  /-- `axum::serve` has returned. -/
  | served
  /-- The flag has been read. -/
  | flagRead (terminatedAbnormally : Bool)
  /-- The flag has been sent to the tasks that are left. -/
  | flagSent (terminatedAbnormally : Bool)
  /-- `main` has returned, with an error where the flag was set. -/
  | returned (terminatedAbnormally : Bool)
  /-- A `?` has returned an error. -/
  | failed
  deriving DecidableEq, Repr

/-- The exit code of the process. -/
def Main.exitCode : Main → Option Nat
  | .returned terminatedAbnormally => some (if terminatedAbnormally then 1 else 0)
  | .failed => some 1
  | _ => none

/-- A process, with a record of its abnormal endings. -/
structure Process where
  /-- `NATS_URL` is set. -/
  natsUrl : Bool
  /-- Where `main` stands. -/
  main : Main
  /-- The listener's task. -/
  listener : TaskState PUnit
  /-- The intake's task. -/
  intake : TaskState Consume
  /-- The `supervise` of each live task. -/
  supervisors : LiveTask → Supervise
  /-- The last value set in the handle. -/
  readiness : Readiness
  /-- The value of the `watch` channel. -/
  shutdown : Bool
  /-- The connections that have been accepted and are still open. -/
  connections : Nat
  /-- The abnormal endings there have been. -/
  endings : List String
  /-- The endings that have been reported. -/
  reports : List String

namespace Process

/-- A process that is starting up. -/
def start (natsUrl : Bool) : Process :=
  { natsUrl := natsUrl, main := .starting, listener := .unspawned, intake := .unspawned,
    supervisors := fun _ => .unspawned, readiness := .notReady "starting up", shutdown := false,
    connections := 0, endings := [], reports := [] }

/-- `set_not_ready`, by `fail_loud` or `supervise`. -/
def setNotReady (process : Process) (reason : String) : Process :=
  { process with readiness := .notReady reason, reports := process.reports ++ [reason] }

/-- `shutdown_tx.send(true)`. Somebody listens as long as `main` runs. -/
def sendShutdown (process : Process) : Process := { process with shutdown := true }

/-- A supervisor moves on. -/
def setSupervisor (process : Process) (task : LiveTask) (later : Supervise) : Process :=
  { process with supervisors := Function.update process.supervisors task later }

/-- The supervisor that moves on. -/
@[simp]
theorem setSupervisor_self (process : Process) (task : LiveTask) (later : Supervise) :
    (process.setSupervisor task later).supervisors task = later := Function.update_self ..

/-- The other one stays where it is. -/
theorem setSupervisor_other (process : Process) {task other : LiveTask} (later : Supervise)
    (apart : other ≠ task) :
    (process.setSupervisor task later).supervisors other = process.supervisors other :=
  Function.update_of_ne apart ..

/-- The intake moves on. -/
def setIntake (process : Process) (later : TaskState Consume) : Process :=
  { process with intake := later }

/-- The intake's loop ends on an error of its own. -/
def failIntake (process : Process) (reason : String) : Process :=
  { process with
    intake := .running (.failing reason), endings := process.endings ++ [reason] }

/-- The next statement of `main`. -/
def runMain (process : Process) : Option Process :=
  match process.main with
  | .starting => some { process with main := .listenerSpawned, listener := .running ⟨⟩ }
  | .listenerSpawned =>
    some { process.setSupervisor .listener .awaiting with main := .listenerSupervised }
  | .listenerSupervised =>
    some { process with main := if process.natsUrl then .intakeBound else .spawned }
  | .intakeBound =>
    some { process with main := .intakeSpawned, intake := .running (.polling 0) }
  | .intakeSpawned => some { process.setSupervisor .intake .awaiting with main := .spawned }
  | .spawned => some { process with main := .portBound }
  | .portBound => some { process with main := .ready, readiness := .ready }
  | .ready => some { process with main := .serving }
  | .serving => if process.shutdown then some { process with main := .draining } else none
  -- The graceful shutdown waits for every open connection, and ends none itself.
  | .draining => if process.connections = 0 then some { process with main := .served } else none
  | .served => some { process with main := .flagRead process.shutdown }
  | .flagRead terminatedAbnormally =>
    some { process.sendShutdown with main := .flagSent terminatedAbnormally }
  | .flagSent terminatedAbnormally =>
    some { process with main := .returned terminatedAbnormally }
  | .returned _ => none
  | .failed => none

/-- The statements of `main` that may fail with a `?`. `axum::serve` resolves to a `Result`, but
never to an error. -/
def fallible (process : Process) : Bool :=
  match process.main with
  | .starting => true
  | .listenerSupervised => process.natsUrl
  | .spawned => true
  | _ => false

/-- What happens on the port. -/
inductive Traffic where
  /-- `axum::serve` accepts a connection. -/
  | opens
  /-- An open connection is served: a response, an event of a stream, its keep-alive. -/
  | serves
  /-- An open connection ends: its client has left, or its last response is out. -/
  | ends
  deriving DecidableEq, Repr

/-- What `axum::serve` does with it. It accepts no connection in the drain, and nothing tells a
stream to end there. -/
def runTraffic (process : Process) : Traffic → Option Process
  | .opens => match process.main with
    | .serving => some { process with connections := process.connections + 1 }
    | _ => none
  | .serves => if 0 < process.connections then some process else none
  | .ends =>
    if 0 < process.connections then
      some { process with connections := process.connections - 1 }
    else none

/-- The next turn of `consume`. -/
def runIntake (process : Process) (received : Recv) : Option Process :=
  match process.intake with
  | .running (.polling consecutiveErrors) =>
    if process.shutdown then some (process.setIntake (.running .draining))
    else some (process.setIntake (.running (.receiving consecutiveErrors)))
  | .running (.receiving consecutiveErrors) => match received with
    | .delivered => some (process.setIntake (.running (.polling 0)))
    | .closed => some (process.failIntake "intake stream closed (durable or stream gone)")
    | .error =>
      if maxConsecutiveRecvErrors ≤ consecutiveErrors + 1 then
        some (process.failIntake "intake recv errors past the budget")
      else some (process.setIntake (.running (.polling (consecutiveErrors + 1))))
  | .running (.failing reason) =>
    some ((process.setNotReady reason).setIntake (.running .failed))
  | .running .failed => some (process.sendShutdown.setIntake (.running .draining))
  | .running .draining => some (process.setIntake .returned)
  | _ => none

/-- The flag wakes `consume` in the middle of `recv`: it polls again. -/
def wakeIntake (process : Process) : Option Process :=
  match process.intake with
  | .running (.receiving consecutiveErrors) =>
    some (process.setIntake (.running (.polling consecutiveErrors)))
  | _ => none

/-- A task that panics or is cancelled, which it can at an `await` or in `handle`. -/
def die (process : Process) (error : JoinError) : LiveTask → Option Process
  | .listener => match process.listener with
    | .running _ => some { process with
        listener := .died error
        endings := process.endings ++ [endingReason .listener error] }
    | _ => none
  | .intake => match process.intake with
    | .running (.failing _) => none
    | .running .failed => none
    | .running _ => some { process with
        intake := .died error
        endings := process.endings ++ [endingReason .intake error] }
    | _ => none

/-- How the handle of a task resolves, once it does. -/
def ending (process : Process) : LiveTask → Option (Option JoinError)
  | .listener => match process.listener with
    | .returned => some none
    | .died error => some (some error)
    | _ => none
  | .intake => match process.intake with
    | .returned => some none
    | .died error => some (some error)
    | _ => none

/-- The next statement of `supervise`. -/
def runSupervisor (process : Process) (task : LiveTask) : Option Process :=
  match process.supervisors task with
  | .awaiting => match process.ending task with
    | some none => some (process.setSupervisor task .returned)
    | some (some error) =>
      some (process.setSupervisor task (.failing (endingReason task error)))
    | none => none
  | .failing reason => some ((process.setNotReady reason).setSupervisor task .failed)
  | .failed => some (process.sendShutdown.setSupervisor task .returned)
  | _ => none

/-- What happens next. -/
inductive Action where
  /-- The next statement of `main`. -/
  | main
  /-- The next statement of `main` fails. -/
  | fail
  /-- SIGTERM or ctrl-c. -/
  | signal
  /-- Something happens on the port. -/
  | traffic (traffic : Traffic)
  /-- The intake goes on; `recv`, if that is where it is, gives something. -/
  | intake (received : Recv)
  /-- The flag wakes the intake in the middle of `recv`. -/
  | wake
  /-- A live task panics or is cancelled. -/
  | die (task : LiveTask) (error : JoinError)
  /-- The next statement of a supervisor. -/
  | supervise (task : LiveTask)
  deriving DecidableEq, Repr

/-- One step. The handlers of SIGTERM and ctrl-c are installed where `shutdown_signal` is polled, in
`axum::serve`: a signal before that has its default disposition, which kills the process without
an exit code of its own, and is left out. A second signal finds nobody who waits for it. -/
def step (process : Process) (action : Action) : Option Process :=
  match process.main.exitCode with
  | some _ => none
  | none => match action with
    | .main => process.runMain
    | .fail => if process.fallible then some { process with main := .failed } else none
    | .signal => match process.main with
      | .serving => some { process with main := .draining }
      | _ => none
    | .traffic traffic => process.runTraffic traffic
    | .intake received => process.runIntake received
    | .wake => process.wakeIntake
    | .die task error => process.die error task
    | .supervise task => process.runSupervisor task

variable {process after : Process}

/-- A process that takes a step runs. -/
theorem running_of_step {action : Action} (stepped : process.step action = some after) :
    process.main.exitCode = none := by
  unfold step at stepped
  split at stepped
  case h_1 => contradiction
  case h_2 running => exact running

/-- A step of `main`, in a process that runs. -/
theorem step_main (running : process.main.exitCode = none) :
    process.step .main = process.runMain := by
  unfold step
  rw [running]

/-- A statement of `main` that fails. -/
theorem step_fail (stepped : process.step .fail = some after) :
    process.fallible = true ∧ after = { process with main := .failed } := by
  have running := running_of_step stepped
  unfold step at stepped
  simp only [running] at stepped
  by_cases may : process.fallible = true
  · rw [if_pos may] at stepped
    exact ⟨may, (Option.some.inj stepped).symm⟩
  · rw [if_neg may] at stepped
    contradiction

/-- A signal. -/
theorem step_signal (stepped : process.step .signal = some after) :
    process.main = .serving ∧ after = { process with main := .draining } := by
  have running := running_of_step stepped
  unfold step at stepped
  simp only [running] at stepped
  split at stepped
  case h_1 at_ => exact ⟨at_, (Option.some.inj stepped).symm⟩
  case h_2 => contradiction

/-- Something on the port. -/
theorem step_traffic {traffic : Traffic}
    (stepped : process.step (.traffic traffic) = some after) :
    process.runTraffic traffic = some after := by
  have running := running_of_step stepped
  unfold step at stepped
  simpa only [running] using stepped

/-- A turn of `consume`. -/
theorem step_intake {received : Recv} (stepped : process.step (.intake received) = some after) :
    process.runIntake received = some after := by
  have running := running_of_step stepped
  unfold step at stepped
  simpa only [running] using stepped

/-- The flag wakes `consume`. -/
theorem step_wake (stepped : process.step .wake = some after) :
    process.wakeIntake = some after := by
  have running := running_of_step stepped
  unfold step at stepped
  simpa only [running] using stepped

/-- A task dies. -/
theorem step_die {task : LiveTask} {error : JoinError}
    (stepped : process.step (.die task error) = some after) :
    process.die error task = some after := by
  have running := running_of_step stepped
  unfold step at stepped
  simpa only [running] using stepped

/-- A statement of `supervise`. -/
theorem step_supervise {task : LiveTask}
    (stepped : process.step (.supervise task) = some after) :
    process.runSupervisor task = some after := by
  have running := running_of_step stepped
  unfold step at stepped
  simpa only [running] using stepped

end Process

end SvcNotifier
