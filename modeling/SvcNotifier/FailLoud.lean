import SvcNotifier.Readiness
import SvcNotifier.Library.Fairness

/-!
# Failing loud

How a process comes to its end. Every statement of `main` brings it further, and it waits only
for the flag or a signal, and then for the connections that are open: a reported ending sends the
flag, so it ends the process as a signal does, unless a connection is never closed. What remains
is which code it ends with.
-/

namespace SvcNotifier.Process

open Library

variable {process after : Process} {action : Action} {natsUrl : Bool}

/-! ## How a process ends -/

/-- Every statement of `main` brings it further. -/
theorem rank_of_runMain (ran : process.runMain = some after) :
    rank process.main < rank after.main := by
  unfold runMain at ran
  split at ran
  case h_3 at_ =>
    obtain rfl := Option.some.inj ran
    cases natsUrl : process.natsUrl with
    | true => simp [rank, at_]
    | false => simp [rank, at_]
  case h_9 at_ =>
    by_cases down : process.shutdown = true
    · rw [if_pos down] at ran
      obtain rfl := Option.some.inj ran
      simp [rank, at_]
    · rw [if_neg down] at ran
      contradiction
  case h_10 at_ =>
    by_cases drained : process.connections = 0
    · rw [if_pos drained] at ran
      obtain rfl := Option.some.inj ran
      simp [rank, at_]
    · rw [if_neg drained] at ran
      contradiction
  case h_14 at_ => contradiction
  case h_15 at_ => contradiction
  all_goals
    rename_i at_
    obtain rfl := Option.some.inj ran
    simp [rank, at_]

/-- `main` does not go back, whoever takes the step. -/
theorem rank_of_step (stepped : process.step action = some after) :
    rank process.main ≤ rank after.main := by
  cases action with
  | main =>
    rw [step_main (running_of_step stepped)] at stepped
    exact Nat.le_of_lt (rank_of_runMain stepped)
  | fail =>
    obtain ⟨_, rfl⟩ := step_fail stepped
    exact rank_le process.main
  | signal =>
    obtain ⟨at_, rfl⟩ := step_signal stepped
    simp [rank, at_]
  | traffic traffic =>
    have same : after.main = process.main := by rw [rest_of_runTraffic (step_traffic stepped)]
    exact Nat.le_of_eq (congrArg rank same).symm
  | intake received =>
    exact Nat.le_of_eq (congrArg rank (rest_of_runIntake (step_intake stepped)).2.1).symm
  | wake =>
    exact Nat.le_of_eq (congrArg rank (rest_of_wakeIntake (step_wake stepped)).2.1).symm
  | die task error =>
    exact Nat.le_of_eq (congrArg rank (rest_of_die (step_die stepped)).2.1).symm
  | supervise task =>
    exact Nat.le_of_eq (congrArg rank (rest_of_runSupervisor (step_supervise stepped)).2.1).symm

/-- `main` waits only for the flag or a signal, and for the open connections. -/
theorem main_enabled (running : process.main.exitCode = none)
    (down : process.main = .serving → process.shutdown = true)
    (drained : process.main = .draining → process.connections = 0) :
    (process.step .main).isSome = true := by
  rw [step_main running]
  unfold runMain
  cases at_ : process.main with
  | serving =>
    simp only [down at_]
    rfl
  | draining =>
    simp only [drained at_]
    rfl
  | returned terminatedAbnormally =>
    rw [at_] at running
    contradiction
  | failed =>
    rw [at_] at running
    contradiction
  | _ => rfl

/-- A process that has not exited can go on. -/
theorem goes_on (running : process.main.exitCode = none) :
    ∃ action, (process.step action).isSome = true := by
  by_cases serves : process.main = .serving
  · refine ⟨.signal, ?_⟩
    unfold step
    rw [running]
    simp only [serves]
    rfl
  · by_cases open_ : 0 < process.connections
    · refine ⟨.traffic .ends, ?_⟩
      unfold step
      rw [running]
      simp only [runTraffic, if_pos open_]
      rfl
    · refine ⟨.main, main_enabled running (fun same => absurd same serves) fun _ => ?_⟩
      exact Nat.eq_zero_of_not_pos open_

/-- Only what happens on the port changes the open connections. -/
theorem connections_of_step (stepped : process.step action = some after)
    (other : ∀ traffic, action ≠ .traffic traffic) :
    after.connections = process.connections := by
  cases action with
  | main =>
    rw [step_main (running_of_step stepped)] at stepped
    unfold runMain at stepped
    split at stepped
    case h_9 =>
      split at stepped
      case isTrue =>
        obtain rfl := Option.some.inj stepped
        rfl
      case isFalse => contradiction
    case h_10 =>
      split at stepped
      case isTrue =>
        obtain rfl := Option.some.inj stepped
        rfl
      case isFalse => contradiction
    case h_14 => contradiction
    case h_15 => contradiction
    all_goals
      obtain rfl := Option.some.inj stepped
      rfl
  | fail =>
    obtain ⟨_, rfl⟩ := step_fail stepped
    rfl
  | signal =>
    obtain ⟨_, rfl⟩ := step_signal stepped
    rfl
  | traffic traffic => exact absurd rfl (other traffic)
  | intake received => exact (rest_of_runIntake (step_intake stepped)).2.2.2
  | wake => exact (rest_of_wakeIntake (step_wake stepped)).2.2.2
  | die task error => exact (rest_of_die (step_die stepped)).2.2.2
  | supervise task => exact (rest_of_runSupervisor (step_supervise stepped)).2.2.2.2

/-- `main` is past serving, and nothing is open if it is in its drain. -/
structure Drained (process : Process) : Prop where
  /-- `main` is past serving. -/
  past : 9 ≤ rank process.main
  /-- No connection is open in the drain. -/
  closed : process.main = .draining → process.connections = 0

/-- No connection is accepted in the drain. -/
theorem drained_step (drained : process.Drained) (stepped : process.step action = some after) :
    after.Drained := by
  have onward := rank_of_step stepped
  refine ⟨Nat.le_trans drained.past onward, fun drains => ?_⟩
  have was : process.main = .draining := by
    have past := drained.past
    rw [drains] at onward
    cases at_ : process.main with
    | draining => rfl
    | _ =>
      simp only [at_, rank] at past onward
      omega
  have closed := drained.closed was
  by_cases traffic : ∃ traffic, action = .traffic traffic
  · obtain ⟨traffic, rfl⟩ := traffic
    have ran := step_traffic stepped
    cases traffic with
    | opens => simp [runTraffic, was] at ran
    | serves => simp [runTraffic, closed] at ran
    | ends => simp [runTraffic, closed] at ran
  · rw [connections_of_step stepped fun event same => traffic ⟨event, same⟩]
    exact closed

/-- The tasks of the process are scheduled fairly. Its clients need not close a connection. -/
structure Scheduled {guard : Process → Action → Prop} (run : Endless step guard (start natsUrl)) :
    Prop where
  /-- `main`. -/
  main : run.Fair (· = .main)
  /-- The supervisors. -/
  supervise : ∀ task, run.Fair (· = .supervise task)
  /-- The loop of the intake. -/
  intake : run.Fair fun action => ∃ received, action = .intake received

/-- From some moment on `main` is in its drain and a connection is open. -/
def Held {guard : Process → Action → Prop} (run : Endless step guard (start natsUrl)) : Prop :=
  ∃ n, ∀ m, n ≤ m → (run.state m).main = .draining ∧ 0 < (run.state m).connections

/-- In an endless run the process never exits. -/
theorem running_of_endless {guard : Process → Action → Prop}
    (run : Endless step guard (start natsUrl)) (n : Nat) :
    (run.state n).main.exitCode = none := running_of_step (run.moved n)

/-- A drain that is not held comes to an end: from some moment on no connection is open in it. -/
theorem drained_of_free {guard : Process → Action → Prop}
    {run : Endless step guard (start natsUrl)} (free : ¬ Held run) (n : Nat) :
    ∃ k, n ≤ k ∧ ∀ m, k ≤ m → (run.state m).main = .draining → (run.state m).connections = 0 := by
  by_cases drains : ∃ m, n ≤ m ∧ (run.state m).main = .draining
  · obtain ⟨first, later, at_⟩ := drains
    obtain ⟨k, past, ended⟩ : ∃ k, first ≤ k ∧
        ¬ ((run.state k).main = .draining ∧ 0 < (run.state k).connections) := by
      by_contra always
      exact free ⟨first, fun m past => not_not.mp fun ended => always ⟨m, past, ended⟩⟩
    have far : 9 ≤ rank (run.state k).main := by
      apply run.stays (fun process => 9 ≤ rank process.main) ?_ ?_ k past
      · exact fun m _ far => Nat.le_trans far (rank_of_step (run.moved m))
      · rw [at_]
        exact Nat.le_refl 9
    have drained : (run.state k).Drained :=
      ⟨far, fun still => Nat.eq_zero_of_not_pos fun open_ => ended ⟨still, open_⟩⟩
    refine ⟨k, Nat.le_trans later past, fun m onward => ?_⟩
    exact (run.stays Drained (fun m _ kept => drained_step kept (run.moved m)) drained m
      onward).closed
  · exact ⟨n, Nat.le_refl n, fun m later at_ => absurd ⟨m, later, at_⟩ drains⟩

/-- `main` is held in its drain, where it does not wait for the flag for good. -/
theorem held_of_down {guard : Process → Action → Prop} {run : Endless step guard (start natsUrl)}
    (scheduled : Scheduled run) {n : Nat}
    (down : ∀ m, n ≤ m → (run.state m).main = .serving → (run.state m).shutdown = true) :
    Held run := by
  by_contra free
  obtain ⟨k, later, drained⟩ := drained_of_free free n
  have enabled : ∀ m, k ≤ m → Endless.Enabled step (· = .main) (run.state m) := fun m past =>
    ⟨.main, rfl, main_enabled (running_of_endless run m) (down m (Nat.le_trans later past))
      (drained m past)⟩
  have climbs : ∀ m, k ≤ m → run.label m = .main →
      rank (run.state m).main < rank (run.state (m + 1)).main := by
    intro m _ own
    have moved := run.moved m
    rw [own, step_main (running_of_endless run m)] at moved
    exact rank_of_runMain moved
  have onward : ∀ m, k ≤ m → rank (run.state m).main ≤ rank (run.state (m + 1)).main :=
    fun m _ => rank_of_step (run.moved m)
  have bounded : ∀ m, k ≤ m → rank (run.state m).main ≤ 13 := fun m _ => rank_le _
  exact run.not_bounded (fun process => rank process.main) scheduled.main enabled climbs onward
    bounded

/-- A signal ends the process, unless a connection holds it. -/
theorem held_of_signal {guard : Process → Action → Prop}
    {run : Endless step guard (start natsUrl)} (scheduled : Scheduled run) {n : Nat}
    (signalled : run.label n = .signal) : Held run := by
  have moved := run.moved n
  rw [signalled] at moved
  have drains : 9 ≤ rank (run.state (n + 1)).main := by
    rw [(step_signal moved).2]
    exact Nat.le_refl 9
  apply held_of_down scheduled
  intro m later serving
  have far : 9 ≤ rank (run.state m).main :=
    run.stays (fun process => 9 ≤ rank process.main)
      (fun m _ at_ => Nat.le_trans at_ (rank_of_step (run.moved m))) drains m later
  rw [serving] at far
  exact absurd far (by decide)

/-- A supervisor that is about to send the flag waits for its own turn. -/
theorem supervisor_stays {task : LiveTask} (spawned : process.Spawned)
    (stepped : process.step action = some after) (at_ : process.supervisors task = .failed)
    (other : action ≠ .supervise task) : after.supervisors task = .failed := by
  cases action with
  | main =>
    rw [step_main (running_of_step stepped)] at stepped
    have kept := (rest_of_runMain spawned stepped).1 task
    rw [← at_]
    apply kept
    rw [at_]
    simp
  | fail =>
    obtain ⟨_, rfl⟩ := step_fail stepped
    exact at_
  | signal =>
    obtain ⟨_, rfl⟩ := step_signal stepped
    exact at_
  | traffic traffic =>
    rw [rest_of_runTraffic (step_traffic stepped)]
    exact at_
  | intake received =>
    rw [(rest_of_runIntake (step_intake stepped)).2.2.1]
    exact at_
  | wake =>
    rw [(rest_of_wakeIntake (step_wake stepped)).2.2.1]
    exact at_
  | die died error =>
    rw [(rest_of_die (step_die stepped)).2.2.1]
    exact at_
  | supervise turn =>
    have apart : task ≠ turn := by
      intro same
      exact other (same ▸ rfl)
    rw [(rest_of_runSupervisor (step_supervise stepped)).2.2.2.1 task apart]
    exact at_

/-- The loop of the intake that is about to send the flag waits for its own turn. -/
theorem intake_stays (spawned : process.Spawned) (stepped : process.step action = some after)
    (at_ : process.intake = .running .failed) (other : ∀ received, action ≠ .intake received) :
    after.intake = .running .failed := by
  cases action with
  | main =>
    rw [step_main (running_of_step stepped)] at stepped
    have kept := (rest_of_runMain spawned stepped).2
    rw [← at_]
    apply kept
    rw [at_]
    simp
  | fail =>
    obtain ⟨_, rfl⟩ := step_fail stepped
    exact at_
  | signal =>
    obtain ⟨_, rfl⟩ := step_signal stepped
    exact at_
  | traffic traffic =>
    rw [rest_of_runTraffic (step_traffic stepped)]
    exact at_
  | intake received => exact absurd rfl (other received)
  | wake =>
    have woken := step_wake stepped
    simp only [wakeIntake, at_] at woken
    contradiction
  | die died error =>
    have dies := step_die stepped
    cases died with
    | listener =>
      simp only [die] at dies
      split at dies
      case h_1 =>
        obtain rfl := Option.some.inj dies
        exact at_
      case h_2 => contradiction
    | intake =>
      simp only [die, at_] at dies
      contradiction
  | supervise turn =>
    rw [(rest_of_runSupervisor (step_supervise stepped)).2.2.1]
    exact at_

/-- A report is not taken back. -/
theorem reports_stay (spawned : process.Spawned) (stepped : process.step action = some after)
    (told : process.reports ≠ []) : after.reports ≠ [] := by
  cases moves_of_step spawned stepped with
  | setReady at_ => exact told
  | readFlag at_ => exact told
  | sendFlag at_ => exact told
  | aside verdict aside =>
    rw [aside.reports]
    exact told
  | ends main readiness shutdown endings reports sending =>
    rw [reports]
    exact told
  | report reporting alarmed main readiness shutdown endings reports sending =>
    rw [reports]
    exact List.append_ne_nil_of_left_ne_nil told _
  | send alarmed sending main readiness shutdown endings reports =>
    rw [reports]
    exact told

/-- No run takes a report back. -/
theorem reports_of_reaches {guard : Process → Action → Prop} (spawned : process.Spawned)
    (told : process.reports ≠ []) (onward : Reaches step guard process after) :
    after.reports ≠ [] := by
  have keeps : ∀ earlier action later, earlier.Spawned ∧ earlier.reports ≠ [] →
      guard earlier action → step earlier action = some later →
        later.Spawned ∧ later.reports ≠ [] := by
    rintro earlier action later ⟨spawned, told⟩ - stepped
    exact ⟨spawned_step spawned stepped, reports_stay spawned stepped told⟩
  exact (onward.invariant keeps ⟨spawned, told⟩).2

/-- The flag is not taken back. -/
theorem shutdown_stays (spawned : process.Spawned) (stepped : process.step action = some after)
    (down : process.shutdown = true) : after.shutdown = true := by
  cases moves_of_step spawned stepped with
  | setReady at_ => exact down
  | readFlag at_ => exact down
  | sendFlag at_ => rfl
  | aside verdict aside =>
    rw [aside.shutdown]
    exact down
  | ends main readiness shutdown endings reports sending =>
    rw [shutdown]
    exact down
  | report reporting alarmed main readiness shutdown endings reports sending =>
    rw [shutdown]
    exact down
  | send alarmed sending main readiness shutdown endings reports => exact shutdown

/-- A party whose turn it is to send the flag sends it. -/
theorem sent_of_turn {guard : Process → Action → Prop} {run : Endless step guard (start natsUrl)}
    (waits : Process → Prop) {mine : Action → Prop} (fair : run.Fair mine) {own : Action}
    (isOwn : mine own)
    (turn : ∀ process action, process.main.exitCode = none → waits process → mine action →
      ∃ after, process.step action = some after ∧ after.shutdown = true)
    (others : ∀ m, waits (run.state m) → ¬ mine (run.label m) → waits (run.state (m + 1)))
    {n : Nat} (at_ : waits (run.state n)) : ∃ m, n ≤ m ∧ (run.state m).shutdown = true := by
  apply run.comes_about waits (fun process => process.shutdown = true) fair at_
  · intro m waiting
    obtain ⟨after, moved, -⟩ := turn _ own (running_of_endless run m) waiting isOwn
    exact ⟨own, isOwn, Option.isSome_of_eq_some moved⟩
  · intro m waiting moves
    obtain ⟨after, moved, sent⟩ := turn _ _ (running_of_endless run m) waiting moves
    have same : run.state (m + 1) = after := Option.some.inj ((run.moved m).symm.trans moved)
    rw [same]
    exact sent
  · exact others

/-- A supervisor that is about to send the flag sends it. -/
theorem sent_by_supervisor {guard : Process → Action → Prop}
    {run : Endless step guard (start natsUrl)} (scheduled : Scheduled run) {task : LiveTask}
    {n : Nat} (at_ : (run.state n).supervisors task = .failed) :
    ∃ m, n ≤ m ∧ (run.state m).shutdown = true := by
  apply sent_of_turn (fun process => process.supervisors task = .failed)
    (scheduled.supervise task) rfl ?_ ?_ at_
  · rintro process action running waits rfl
    refine ⟨process.sendShutdown.setSupervisor task .returned, ?_, rfl⟩
    unfold step
    rw [running]
    simp only [runSupervisor, waits]
  · intro m waits other
    exact supervisor_stays (spawned_of_reaches (run.reaches m)) (run.moved m) waits other

/-- The loop of the intake that is about to send the flag sends it. -/
theorem sent_by_intake {guard : Process → Action → Prop}
    {run : Endless step guard (start natsUrl)} (scheduled : Scheduled run) {n : Nat}
    (at_ : (run.state n).intake = .running .failed) :
    ∃ m, n ≤ m ∧ (run.state m).shutdown = true := by
  apply sent_of_turn (fun process => process.intake = .running .failed)
    scheduled.intake ⟨.delivered, rfl⟩ ?_ ?_ at_
  · rintro process action running waits ⟨received, rfl⟩
    refine ⟨process.sendShutdown.setIntake (.running .draining), ?_, rfl⟩
    unfold step
    rw [running]
    simp only [runIntake, waits]
  · intro m waits other
    exact intake_stays (spawned_of_reaches (run.reaches m)) (run.moved m) waits
      fun received own => other ⟨received, own⟩

/-- A reported ending ends the process, unless a connection holds it. -/
theorem held_of_report {guard : Process → Action → Prop}
    {run : Endless step guard (start natsUrl)} (scheduled : Scheduled run) {n : Nat}
    (told : (run.state n).reports ≠ []) : Held run := by
  have sent : ∃ m, n ≤ m ∧ (run.state m).shutdown = true := by
    rcases (accounted_of_reaches (run.reaches n)).told told with down | sending
    · exact ⟨n, Nat.le_refl n, down⟩
    · simp only [Process.sending, Bool.or_eq_true, beq_iff_eq] at sending
      rcases sending with (intake | listener) | supervisor
      · exact sent_by_intake scheduled intake
      · exact sent_by_supervisor scheduled listener
      · exact sent_by_supervisor scheduled supervisor
  obtain ⟨first, _, down⟩ := sent
  apply held_of_down scheduled
  intro m later _
  exact run.stays (fun process => process.shutdown = true)
    (fun m _ at_ => shutdown_stays (spawned_of_reaches (run.reaches m)) (run.moved m) at_)
    down m later

/-- Without the flag and without a signal `main` does not come to its drain. -/
theorem serves_on (stepped : process.step action = some after)
    (early : rank process.main ≤ 8) (up : process.shutdown = false) (unsignalled : action ≠ .signal)
    (running : after.main.exitCode = none) : rank after.main ≤ 8 := by
  cases action with
  | main =>
    rw [step_main (running_of_step stepped)] at stepped
    unfold runMain at stepped
    split at stepped
    case h_3 =>
      obtain rfl := Option.some.inj stepped
      cases natsUrl : process.natsUrl with
      | true => simp [rank]
      | false => simp [rank]
    case h_9 =>
      rw [up] at stepped
      contradiction
    case h_10 at_ => simp [rank, at_] at early
    case h_11 at_ => simp [rank, at_] at early
    case h_12 at_ => simp [rank, at_] at early
    case h_13 at_ => simp [rank, at_] at early
    case h_14 => contradiction
    case h_15 => contradiction
    all_goals
      obtain rfl := Option.some.inj stepped
      simp [rank]
  | fail =>
    obtain ⟨_, rfl⟩ := step_fail stepped
    contradiction
  | signal => exact absurd rfl unsignalled
  | traffic traffic =>
    rw [rest_of_runTraffic (step_traffic stepped)]
    exact early
  | intake received =>
    rw [(rest_of_runIntake (step_intake stepped)).2.1]
    exact early
  | wake =>
    rw [(rest_of_wakeIntake (step_wake stepped)).2.1]
    exact early
  | die task error =>
    rw [(rest_of_die (step_die stepped)).2.1]
    exact early
  | supervise task =>
    rw [(rest_of_runSupervisor (step_supervise stepped)).2.1]
    exact early

/-- Before `main` has come to its drain it has not read the flag. -/
theorem unread_of_early {main : Main} (early : rank main ≤ 8) : main.verdict = none := by
  cases main with
  | flagRead _ => simp [rank] at early
  | flagSent _ => simp [rank] at early
  | returned _ => simp [rank] at early
  | _ => rfl

/-- `main` comes to its drain by a report or by a signal. -/
theorem ended_of_held {guard : Process → Action → Prop}
    {run : Endless step guard (start natsUrl)} (held : Held run) :
    ∃ n, (run.state n).reports ≠ [] ∨ run.label n = .signal := by
  by_contra never
  obtain ⟨n, held⟩ := held
  have early : rank (run.state n).main ≤ 8 := by
    apply run.stays (fun process => rank process.main ≤ 8) ?_ ?_ n (Nat.zero_le n)
    · intro m _ early
      apply serves_on (run.moved m) early
      · apply Bool.eq_false_iff.mpr
        intro down
        rcases (preceded_of_reaches (run.reaches m)).shutdown down with told | read
        · exact never ⟨m, Or.inl told⟩
        · rw [unread_of_early early] at read
          contradiction
      · exact fun signalled => never ⟨m, Or.inr signalled⟩
      · exact running_of_endless run (m + 1)
    · rw [run.starts]
      exact Nat.zero_le 8
  rw [(held n (Nat.le_refl n)).1] at early
  exact absurd early (by decide)

/-! ## A shutdown by signal -/

/-- `main` fails only by a `?`, and only before it serves. -/
theorem failed_of_step (stepped : process.step action = some after)
    (failed : after.main = .failed) : action = .fail ∧ rank process.main < 9 := by
  have running := running_of_step stepped
  have kept : after.main = process.main → False := by
    intro same
    rw [← same, failed] at running
    contradiction
  cases action with
  | main =>
    rw [step_main running] at stepped
    unfold runMain at stepped
    split at stepped
    case h_3 =>
      obtain rfl := Option.some.inj stepped
      cases natsUrl : process.natsUrl with
      | true => simp [natsUrl] at failed
      | false => simp [natsUrl] at failed
    case h_9 =>
      split at stepped
      case isTrue =>
        obtain rfl := Option.some.inj stepped
        contradiction
      case isFalse => contradiction
    case h_10 =>
      split at stepped
      case isTrue =>
        obtain rfl := Option.some.inj stepped
        contradiction
      case isFalse => contradiction
    case h_14 => contradiction
    case h_15 => contradiction
    all_goals
      obtain rfl := Option.some.inj stepped
      contradiction
  | fail =>
    refine ⟨rfl, ?_⟩
    obtain ⟨may, _⟩ := step_fail stepped
    unfold fallible at may
    split at may
    case h_4 => contradiction
    all_goals
      rename_i at_
      rw [at_]
      decide
  | signal =>
    obtain ⟨_, rfl⟩ := step_signal stepped
    contradiction
  | traffic traffic =>
    have rest := rest_of_runTraffic (step_traffic stepped)
    exact (kept (by rw [rest])).elim
  | intake received => exact (kept (rest_of_runIntake (step_intake stepped)).2.1).elim
  | wake => exact (kept (rest_of_wakeIntake (step_wake stepped)).2.1).elim
  | die task error => exact (kept (rest_of_die (step_die stepped)).2.1).elim
  | supervise task => exact (kept (rest_of_runSupervisor (step_supervise stepped)).2.1).elim

/-- After a signal `main` is past serving, and does not fail. -/
theorem drains_of_signal {guard : Process → Action → Prop} {actions : List Action}
    (run : Steps step guard process actions after) (signalled : .signal ∈ actions) :
    9 ≤ rank after.main ∧ after.main ≠ .failed := by
  induction run with
  | refl _ => cases signalled
  | @next earlier middle last action actions met moved rest ih =>
    rcases List.mem_cons.mp signalled with own | later
    · rw [← own] at moved
      obtain ⟨_, rfl⟩ := step_signal moved
      have drains : 9 ≤ rank Main.draining ∧ Main.draining ≠ .failed := ⟨Nat.le_refl 9, by simp⟩
      have keeps : ∀ earlier action later,
          9 ≤ rank earlier.main ∧ earlier.main ≠ .failed → guard earlier action →
            step earlier action = some later → 9 ≤ rank later.main ∧ later.main ≠ .failed := by
        intro earlier action later ⟨far, fine⟩ _ stepped
        refine ⟨Nat.le_trans far (rank_of_step stepped), ?_⟩
        intro failed
        exact Nat.not_lt.mpr far (failed_of_step stepped failed).2
      exact rest.invariant keeps drains
    · exact ih later

/-- Without an abnormal ending, a signal ends the process with zero. -/
theorem zero_of_signal {guard : Process → Action → Prop} {actions : List Action} {code : Nat}
    (run : Steps step guard (start natsUrl) actions process) (signalled : .signal ∈ actions)
    (unended : process.endings = []) (exited : process.main.exitCode = some code) : code = 0 := by
  obtain ⟨_, fine⟩ := drains_of_signal run signalled
  obtain ⟨_, _, _, unread⟩ := (accounted_of_reaches ⟨actions, run⟩).quiet unended
  cases at_ : process.main with
  | returned terminatedAbnormally =>
    rw [at_] at unread exited
    cases terminatedAbnormally with
    | true => exact absurd rfl unread
    | false => exact (Option.some.inj exited).symm
  | failed => exact absurd at_ fine
  | _ =>
    rw [at_] at exited
    contradiction

/-! ## Runs -/

/-- The listener panics and the supervisor has set readiness before `main` binds the port. -/
def reportedAtBoot : List Action :=
  [.main, .main, .die .listener .panic, .supervise .listener, .supervise .listener,
    .main, .main, .main]

/-- The listener panics during the drain of a shutdown, and is reported when `main` has read the
flag. -/
def reportedAtExit : List Action :=
  [.main, .main, .main, .main, .main, .main, .signal, .die .listener .panic,
    .supervise .listener, .main, .main, .supervise .listener, .main, .main]

/-- A process without an intake that is told to stop while a client is connected, who leaves. -/
def stopped : List Action :=
  [.main, .main, .main, .main, .main, .main, .traffic .opens, .signal, .traffic .ends, .main,
    .main, .main, .main]

/-- Boot, service and the listener's panic, reported in time, with a client who leaves in the
drain. -/
def reportedInService : List Action :=
  [.main, .main, .main, .main, .main, .main, .traffic .opens, .die .listener .panic,
    .supervise .listener, .supervise .listener, .supervise .listener, .main, .traffic .serves,
    .traffic .ends, .main, .main, .main, .main]

/-- Boot, service and the listener's panic, reported in time, with a stream that stays open. -/
def reportedToSubscriber : List Action :=
  [.main, .main, .main, .main, .main, .main, .traffic .opens, .die .listener .panic,
    .supervise .listener, .supervise .listener, .supervise .listener, .main]

/-- A process that is told to stop while a stream stays open. -/
def stoppedWithSubscriber : List Action :=
  [.main, .main, .main, .main, .main, .main, .traffic .opens, .signal]

/-- Boot, and then the intake takes command after command. -/
def commandAfterCommand (n : Nat) : Action := if n < 8 then .main else .intake .delivered

/-- The process that boots and then takes command after command. -/
def busy : Nat → Process
  | 0 => start true
  | n + 1 => ((busy n).step (commandAfterCommand n)).getD (busy n)

/-- Once it serves, it polls and receives in turn. -/
theorem busy_turns (n : Nat) : busy (8 + n) = busy 8 ∨ busy (8 + n) = busy 9 := by
  induction n with
  | zero => exact Or.inl rfl
  | succ n ih =>
    have turn : commandAfterCommand (8 + n) = .intake .delivered :=
      if_neg (Nat.not_lt.mpr (Nat.le_add_right 8 n))
    show ((busy (8 + n)).step (commandAfterCommand (8 + n))).getD (busy (8 + n)) = busy 8 ∨
      ((busy (8 + n)).step (commandAfterCommand (8 + n))).getD (busy (8 + n)) = busy 9
    rw [turn]
    rcases ih with polls | receives
    · rw [polls]
      exact Or.inr rfl
    · rw [receives]
      exact Or.inl rfl

/-- Every step of it is enabled. -/
theorem busy_moves (n : Nat) :
    (busy n).step (commandAfterCommand n) = some (busy (n + 1)) := by
  have some_ : ((busy n).step (commandAfterCommand n)).isSome = true := by
    have boot : ∀ m, m < 8 → ((busy m).step (commandAfterCommand m)).isSome = true := by decide
    by_cases boots : n < 8
    · exact boot n boots
    · obtain ⟨m, rfl⟩ := Nat.exists_eq_add_of_le (Nat.not_lt.mp boots)
      have turn : commandAfterCommand (8 + m) = .intake .delivered := if_neg boots
      rw [turn]
      rcases busy_turns m with polls | receives
      · rw [polls]
        rfl
      · rw [receives]
        rfl
  obtain ⟨later, stepped⟩ := Option.isSome_iff_exists.mp some_
  show _ = some (((busy n).step (commandAfterCommand n)).getD (busy n))
  rw [stepped]
  rfl

/-- The run without end of a process that only serves. -/
def busyRun : Endless step anyStep (start true) where
  state := busy
  label := commandAfterCommand
  starts := rfl
  met := fun _ => trivial
  moved := busy_moves

/-- The run is a fair one: `main` and the supervisors have nothing to do. -/
theorem busyRun_scheduled : Scheduled busyRun := by
  have idle : ∀ action, ((busy 8).step action).isSome = false →
      ((busy 9).step action).isSome = false → busyRun.Fair (· = action) := by
    intro action polling receiving n enabled
    obtain ⟨_, rfl, on⟩ := enabled (8 + n) (Nat.le_add_left n 8)
    exfalso
    rcases busy_turns n with polls | receives
    · have same : busyRun.state (8 + n) = busy 8 := polls
      rw [same, polling] at on
      contradiction
    · have same : busyRun.state (8 + n) = busy 9 := receives
      rw [same, receiving] at on
      contradiction
  refine ⟨idle .main rfl rfl, fun task => ?_, ?_⟩
  · cases task with
    | listener => exact idle _ rfl rfl
    | intake => exact idle _ rfl rfl
  · intro n _
    exact ⟨8 + n, Nat.le_add_left n 8, .delivered,
      if_neg (Nat.not_lt.mpr (Nat.le_add_right 8 n))⟩

/-- A process that only serves is not held in a drain. -/
theorem busyRun_free : ¬ Held busyRun := by
  rintro ⟨n, held⟩
  have drains := (held (8 + n) (Nat.le_add_left n 8)).1
  have serves : (busy (8 + n)).main = .serving := by
    rcases busy_turns n with polls | receives
    · rw [polls]
      rfl
    · rw [receives]
      rfl
  exact absurd (serves.symm.trans drains) (by decide)

/-- A run that can be played with timely steps. -/
theorem steps_timely (actions : List Action) (played : play (fun process action =>
      if decide (process.Timely action) then step process action else none) (start false)
      actions = some process) : Steps step Timely (start false) actions process :=
  steps_of_checked_play played fun _ _ timely => of_decide_eq_true timely

/-- A process in which only a client has anything to do rests as fairly as it likes. -/
theorem resting_scheduled {guard : Process → Action → Prop} {actions : List Action}
    {loop : Action} (run : Steps step guard (start natsUrl) actions process)
    (met : guard process loop) (idle : process.step loop = some process)
    (main : process.step .main = none) (supervise : ∀ task, process.step (.supervise task) = none)
    (intake : ∀ received, process.step (.intake received) = none) :
    Scheduled (run.resting met idle) := by
  refine ⟨run.resting_fair met idle ?_, fun task => run.resting_fair met idle ?_,
    run.resting_fair met idle ?_⟩
  · rintro action rfl
    exact main
  · rintro action rfl
    exact supervise task
  · rintro action ⟨received, rfl⟩
    exact intake received

/-- The listener has panicked, and an open stream is served for good. -/
def reportedRun : Endless step Timely (start false) :=
  (steps_timely reportedToSubscriber rfl).resting (show Timely _ (.traffic .serves) by decide) rfl

/-- Every task has done its part in it. -/
theorem reportedRun_scheduled : Scheduled reportedRun :=
  resting_scheduled _ _ _ rfl (fun task => by cases task <;> rfl) fun _ => rfl

/-- The process has been told to stop, and an open stream is served for good. -/
def stoppedRun : Endless step Timely (start false) :=
  (steps_timely stoppedWithSubscriber rfl).resting (show Timely _ (.traffic .serves) by decide) rfl

/-- `main` waits for the stream in it, and no other task has anything to do. -/
theorem stoppedRun_scheduled : Scheduled stoppedRun :=
  resting_scheduled _ _ _ rfl (fun task => by cases task <;> rfl) fun _ => rfl

/-! ## The main result -/

/-- A dead live task is never behind a ready probe, where the steps are timely: once its ending
is reported the probe is down, and stays down, and the exit code is not zero. An untimely step,
wherever it is taken, leads to a process where that fails. In any run, a process that has not
exited can go on, and a run in which the tasks are scheduled fairly goes on without end after a
report or a signal exactly where a connection that is open in the drain is never closed. A signal
without an abnormal ending ends the process with zero. -/
theorem dead_task_never_behind_ready_probe (natsUrl : Bool) :
    (∀ process later, Reaches step Timely (start natsUrl) process → process.reports ≠ [] →
      Reaches step Timely process later → later.Loud) ∧
    (∀ process action after, Reaches step anyStep (start natsUrl) process →
      process.step action = some after → ¬ process.Timely action →
        ∃ final, Reaches step anyStep after final ∧ final.reports ≠ [] ∧ ¬ final.Loud) ∧
    (∀ process, Reaches step anyStep (start natsUrl) process → process.main.exitCode = none →
      ∃ action, (process.step action).isSome = true) ∧
    (∀ guard, ∀ run : Endless step guard (start natsUrl), Scheduled run →
      ((∃ n, (run.state n).reports ≠ [] ∨ run.label n = .signal) ↔ Held run)) ∧
    (∀ actions process code, Steps step anyStep (start natsUrl) actions process →
      .signal ∈ actions → process.endings = [] → process.main.exitCode = some code →
        code = 0) := by
  refine ⟨?_, ?_, ?_, ?_, ?_⟩
  · intro process later reached told onward
    have kept := reports_of_reaches (spawned_of_reaches reached) told onward
    exact (candid_of_reaches (reached.trans onward)).loud kept
  · intro process action after _ stepped untimely
    exact hidden_of_untimely untimely stepped
  · intro process _ running
    exact goes_on running
  · intro guard run scheduled
    constructor
    · rintro ⟨n, told | signalled⟩
      · exact held_of_report scheduled told
      · exact held_of_signal scheduled signalled
    · exact ended_of_held
  · intro actions process code run signalled unended exited
    exact zero_of_signal run signalled unended exited

/-- The theorem on a listener that panics while a client is connected, on a process that only
serves, on one whose drain is held by a stream, and on one that is told to stop. -/
theorem dead_task_never_behind_ready_probe_sample :
    (∃ process, Steps step Timely (start false) reportedInService process ∧
      process.reports = ["realtime-listener task panicked"] ∧ process.Loud ∧
      process.main.exitCode = some 1) ∧
    (∀ n, (busyRun.state n).reports = []) ∧ Held reportedRun ∧
    ∃ process code, Steps step anyStep (start false) stopped process ∧
      process.main.exitCode = some code ∧ code = 0 := by
  refine ⟨?_, ?_, ?_, ?_⟩
  · have run := steps_timely reportedInService rfl
    exact ⟨_, run, rfl, (dead_task_never_behind_ready_probe false).1 _ _ ⟨_, run⟩
      (List.cons_ne_nil _ _) (.refl _), rfl⟩
  · intro n
    have exact_ := (dead_task_never_behind_ready_probe true).2.2.2.1 _ busyRun busyRun_scheduled
    by_contra told
    exact busyRun_free (exact_.mp ⟨n, Or.inl told⟩)
  · have exact_ :=
      (dead_task_never_behind_ready_probe false).2.2.2.1 _ reportedRun reportedRun_scheduled
    exact exact_.mp ⟨10, Or.inl (List.cons_ne_nil "realtime-listener task panicked" [])⟩
  · have run : Steps step anyStep (start false) stopped _ := steps_of_play rfl
    refine ⟨_, 0, run, rfl, ?_⟩
    exact (dead_task_never_behind_ready_probe false).2.2.2.2 _ _ 0 run (by decide) rfl rfl

/-- `set_ready` overwrites a reported ending, a report after the flag has been read does not
change the exit code, and neither a report nor a signal ends a process with an open stream. -/
theorem reported_endings_are_hidden :
    (¬ ∀ process, Reaches step anyStep (start false) process → process.reports ≠ [] →
      process.readiness ≠ .ready) ∧
    (¬ ∀ process, Reaches step anyStep (start false) process → process.reports ≠ [] →
      process.main.exitCode ≠ some 0) ∧
    (¬ ∀ run : Endless step Timely (start false), Scheduled run →
      ∀ n, (run.state n).reports = []) ∧
    ¬ ∀ run : Endless step Timely (start false), Scheduled run → ∀ n, run.label n ≠ .signal := by
  refine ⟨?_, ?_, ?_, ?_⟩
  · intro claimed
    have reached : Reaches step anyStep (start false) _ := ⟨reportedAtBoot, steps_of_play rfl⟩
    exact claimed _ reached (List.cons_ne_nil _ _) rfl
  · intro claimed
    have reached : Reaches step anyStep (start false) _ := ⟨reportedAtExit, steps_of_play rfl⟩
    exact claimed _ reached (List.cons_ne_nil _ _) rfl
  · intro claimed
    have none_ := claimed reportedRun reportedRun_scheduled 10
    exact List.cons_ne_nil _ _ none_
  · intro claimed
    exact claimed stoppedRun stoppedRun_scheduled 7 rfl

end SvcNotifier.Process
