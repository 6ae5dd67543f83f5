import SvcNotifier.FailLoud
import Mathlib.Data.List.DropRight

/-!
# The loop of `consume`

`consume` counts the errors of `recv` since the last delivery and gives up at the tenth. It polls
the flag before every `recv`. What the loop makes of what `recv` gives is told here over whole
runs of the process, whatever `main`, the supervisors and the other task do in between.
-/

namespace SvcNotifier.Process

open Library

variable {process after : Process} {action : Action} {natsUrl : Bool}

/-- The reason given when `recv` has no more to give. -/
def streamClosed : String := "intake stream closed (durable or stream gone)"

/-- The reason given when `recv` has failed too often. -/
def pastBudget : String := "intake recv errors past the budget"

/-- What `recv` gives at a step. -/
def gives (process : Process) : Action → Option Recv
  | .intake received => match process.intake with
    | .running (.receiving _) => some received
    | _ => none
  | _ => none

/-- What `recv` gives in a run. -/
def given : Process → List Action → List Recv
  | _, [] => []
  | process, action :: actions => match process.step action with
    | some after => (process.gives action).toList ++ given after actions
    | none => []

/-- The errors since the last delivery. -/
def errorsInARow (received : List Recv) : Nat := (received.rtakeWhile (· == .error)).length

/-- What `consume` counts, as long as it loops. -/
def counts (process : Process) : Option Nat :=
  match process.intake with
  | .running (.polling consecutiveErrors) => some consecutiveErrors
  | .running (.receiving consecutiveErrors) => some consecutiveErrors
  | _ => none

/-- What `recv` may still give once the flag has been sent: what it is at. -/
def underWay (process : Process) : Nat :=
  match process.intake with
  | .running (.receiving _) => 1
  | _ => 0

/-- One more error. -/
theorem errorsInARow_error (received : List Recv) :
    errorsInARow (received ++ [.error]) = errorsInARow received + 1 := by
  rw [errorsInARow, List.rtakeWhile_concat_pos _ _ _ (by decide), List.length_append]
  rfl

/-- Anything else ends the row. -/
theorem errorsInARow_other (received : List Recv) {last : Recv} (other : last ≠ .error) :
    errorsInARow (received ++ [last]) = 0 := by
  rw [errorsInARow, List.rtakeWhile_concat_neg _ _ _ (by simpa using other)]
  rfl

/-- What `recv` gives at one more step. -/
theorem given_snoc {guard : Process → Action → Prop} {first : Process} {actions : List Action}
    (run : Steps step guard first actions process) (stepped : process.step action = some after) :
    given first (actions ++ [action]) = given first actions ++ (process.gives action).toList := by
  induction run with
  | refl process => simp [given, stepped]
  | next met moved rest ih => simp [given, moved, ih stepped]

/-! ## One step -/

/-- What one step does to the count and to the endings. -/
inductive Turn (process : Process) : Option Recv → Process → Prop where
  /-- `recv` gives nothing: the loop goes on with its count, begins, or ends. -/
  | aside {after : Process} (endings : after.endings = process.endings ∨
        ∃ task error, after.endings = process.endings ++ [endingReason task error])
      (counts : after.counts = process.counts ∨ after.counts = none ∨
        process.intake = .unspawned ∧ after.counts = some 0)
      (spawned : after.intake = .unspawned → process.intake = .unspawned)
      (underWay : process.shutdown = true → after.underWay ≤ process.underWay) :
      Turn process none after
  /-- A delivery, which ends the row of errors. -/
  | delivered {after : Process} {consecutiveErrors : Nat}
      (at_ : process.counts = some consecutiveErrors) (counts : after.counts = some 0)
      (endings : after.endings = process.endings) (spawned : after.intake ≠ .unspawned)
      (underWay : after.underWay + 1 = process.underWay) : Turn process (some .delivered) after
  /-- The stream has ended, and the loop with it. -/
  | closed {after : Process} {consecutiveErrors : Nat}
      (at_ : process.counts = some consecutiveErrors) (counts : after.counts = none)
      (endings : after.endings = process.endings ++ [streamClosed])
      (spawned : after.intake ≠ .unspawned) (underWay : after.underWay + 1 = process.underWay) :
      Turn process (some .closed) after
  /-- An error that the budget has room for. -/
  | error {after : Process} {consecutiveErrors : Nat}
      (at_ : process.counts = some consecutiveErrors)
      (room : consecutiveErrors + 1 < maxConsecutiveRecvErrors)
      (counts : after.counts = some (consecutiveErrors + 1))
      (endings : after.endings = process.endings) (spawned : after.intake ≠ .unspawned)
      (underWay : after.underWay + 1 = process.underWay) : Turn process (some .error) after
  /-- An error past the budget. -/
  | budget {after : Process} {consecutiveErrors : Nat}
      (at_ : process.counts = some consecutiveErrors)
      (spent : maxConsecutiveRecvErrors ≤ consecutiveErrors + 1) (counts : after.counts = none)
      (endings : after.endings = process.endings ++ [pastBudget])
      (spawned : after.intake ≠ .unspawned) (underWay : after.underWay + 1 = process.underWay) :
      Turn process (some .error) after

/-- A step that leaves the intake alone. -/
theorem turn_of_same (intake : after.intake = process.intake)
    (endings : after.endings = process.endings ∨
      ∃ task error, after.endings = process.endings ++ [endingReason task error]) :
    process.Turn none after := by
  refine .aside endings (Or.inl ?_) (fun unspawned => ?_) fun _ => ?_
  · unfold counts
    rw [intake]
  · rw [← intake]
    exact unspawned
  · unfold underWay
    rw [intake]

/-- What `main` does to the intake. -/
theorem turn_of_runMain (spawned : process.Spawned) (ran : process.runMain = some after) :
    process.Turn none after := by
  unfold runMain at ran
  split at ran
  case h_4 at_ =>
    obtain rfl := Option.some.inj ran
    have unspawned : process.intake = .unspawned := spawned.intake (by rw [at_]; decide)
    exact .aside (Or.inl rfl) (Or.inr (Or.inr ⟨unspawned, rfl⟩)) (fun other => by contradiction)
      fun _ => Nat.zero_le _
  case h_9 at_ =>
    by_cases down : process.shutdown = true
    · rw [if_pos down] at ran
      obtain rfl := Option.some.inj ran
      exact turn_of_same rfl (Or.inl rfl)
    · rw [if_neg down] at ran
      contradiction
  case h_10 =>
    by_cases drained : process.connections = 0
    · rw [if_pos drained] at ran
      obtain rfl := Option.some.inj ran
      exact turn_of_same rfl (Or.inl rfl)
    · rw [if_neg drained] at ran
      contradiction
  case h_14 => contradiction
  case h_15 => contradiction
  all_goals
    obtain rfl := Option.some.inj ran
    exact turn_of_same rfl (Or.inl rfl)

/-- What `consume` does. -/
theorem turn_of_runIntake {received : Recv} (ran : process.runIntake received = some after) :
    process.Turn (process.gives (.intake received)) after := by
  unfold runIntake at ran
  split at ran
  case h_1 consecutiveErrors at_ =>
    have none_ : process.gives (.intake received) = none := by simp [gives, at_]
    rw [none_]
    by_cases down : process.shutdown = true
    · rw [if_pos down] at ran
      obtain rfl := Option.some.inj ran
      exact .aside (Or.inl rfl) (Or.inr (Or.inl rfl)) (fun other => by contradiction)
        fun _ => Nat.zero_le _
    · rw [if_neg down] at ran
      obtain rfl := Option.some.inj ran
      refine .aside (Or.inl rfl) (Or.inl ?_) (fun other => by contradiction)
        fun sent => absurd sent down
      simp [counts, setIntake, at_]
  case h_2 consecutiveErrors at_ =>
    have some_ : process.gives (.intake received) = some received := by simp [gives, at_]
    have counting : process.counts = some consecutiveErrors := by simp [counts, at_]
    have waiting : 0 + 1 = process.underWay := by simp [underWay, at_]
    rw [some_]
    cases received with
    | delivered =>
      obtain rfl := Option.some.inj ran
      exact .delivered counting rfl rfl (fun other => by contradiction) waiting
    | closed =>
      obtain rfl := Option.some.inj ran
      exact .closed counting rfl rfl (fun other => by contradiction) waiting
    | error =>
      by_cases spent : maxConsecutiveRecvErrors ≤ consecutiveErrors + 1
      · simp only [if_pos spent] at ran
        obtain rfl := Option.some.inj ran
        exact .budget counting spent rfl rfl (fun other => by contradiction) waiting
      · simp only [if_neg spent] at ran
        obtain rfl := Option.some.inj ran
        exact .error counting (Nat.not_le.mp spent) rfl rfl (fun other => by contradiction) waiting
  case h_6 => contradiction
  all_goals
    rename_i at_
    have none_ : process.gives (.intake received) = none := by simp [gives, at_]
    rw [none_]
    obtain rfl := Option.some.inj ran
    exact .aside (Or.inl rfl) (Or.inr (Or.inl rfl)) (fun other => by contradiction)
      fun _ => Nat.zero_le _

/-- What a supervisor does. -/
theorem turn_of_runSupervisor {task : LiveTask} (ran : process.runSupervisor task = some after) :
    process.Turn none after := by
  unfold runSupervisor at ran
  split at ran
  · split at ran
    · obtain rfl := Option.some.inj ran
      exact turn_of_same rfl (Or.inl rfl)
    · obtain rfl := Option.some.inj ran
      exact turn_of_same rfl (Or.inl rfl)
    · contradiction
  · obtain rfl := Option.some.inj ran
    exact turn_of_same rfl (Or.inl rfl)
  · obtain rfl := Option.some.inj ran
    exact turn_of_same rfl (Or.inl rfl)
  · contradiction

/-- The death of a task. -/
theorem turn_of_die {task : LiveTask} {error : JoinError}
    (died : process.die error task = some after) : process.Turn none after := by
  cases task with
  | listener =>
    simp only [die] at died
    split at died
    · obtain rfl := Option.some.inj died
      exact turn_of_same rfl (Or.inr ⟨.listener, error, rfl⟩)
    · contradiction
  | intake =>
    simp only [die] at died
    split at died
    · contradiction
    · contradiction
    · obtain rfl := Option.some.inj died
      exact .aside (Or.inr ⟨.intake, error, rfl⟩) (Or.inr (Or.inl rfl))
        (fun other => by contradiction) fun _ => Nat.zero_le _
    · contradiction

/-- What any step does to the count and to the endings. -/
theorem turn_of_step (spawned : process.Spawned) (stepped : process.step action = some after) :
    process.Turn (process.gives action) after := by
  cases action with
  | main =>
    have ran := stepped
    rw [step_main (running_of_step stepped)] at ran
    exact turn_of_runMain spawned ran
  | fail =>
    obtain ⟨-, rfl⟩ := step_fail stepped
    exact turn_of_same rfl (Or.inl rfl)
  | signal =>
    obtain ⟨-, rfl⟩ := step_signal stepped
    exact turn_of_same rfl (Or.inl rfl)
  | traffic traffic =>
    rw [rest_of_runTraffic (step_traffic stepped)]
    exact turn_of_same rfl (Or.inl rfl)
  | intake received => exact turn_of_runIntake (step_intake stepped)
  | wake =>
    have woken := step_wake stepped
    unfold wakeIntake at woken
    split at woken
    · rename_i consecutiveErrors at_
      obtain rfl := Option.some.inj woken
      refine .aside (Or.inl rfl) (Or.inl ?_) (fun other => by contradiction) fun _ => Nat.zero_le _
      simp [counts, setIntake, at_]
    · contradiction
  | die task error => exact turn_of_die (step_die stepped)
  | supervise task => exact turn_of_runSupervisor (step_supervise stepped)

/-! ## Over runs -/

/-- The two reasons of the loop are no ending of a task. -/
theorem not_endingReason (task : LiveTask) (error : JoinError) :
    pastBudget ≠ endingReason task error ∧ streamClosed ≠ endingReason task error := by
  cases task <;> cases error <;> decide

/-- The count and the endings are what `recv` has given so far. -/
structure Reckons (received : List Recv) (process : Process) : Prop where
  /-- Nothing runs before it is spawned. -/
  spawned : process.Spawned
  /-- Nothing is given before the intake is spawned. -/
  unspawned : process.intake = .unspawned → received = []
  /-- The loop counts the errors since the last delivery. -/
  counts : ∀ consecutiveErrors, process.counts = some consecutiveErrors →
    consecutiveErrors = errorsInARow received ∧ consecutiveErrors < maxConsecutiveRecvErrors ∧
      .closed ∉ received
  /-- The budget is spent by ten errors in a row. -/
  budget : pastBudget ∈ process.endings ↔ maxConsecutiveRecvErrors ≤ errorsInARow received
  /-- The loop has ended on the end of the stream. -/
  closed : streamClosed ∈ process.endings ↔ .closed ∈ received
  /-- Nothing is given after that. -/
  earlier : ∀ before, before <+: received → before ≠ received →
    errorsInARow before < maxConsecutiveRecvErrors ∧ .closed ∉ before

/-- What is before a list with one more item. -/
theorem prefix_concat_cases {received before : List Recv} {last : Recv}
    (early : before <+: received ++ [last]) (other : before ≠ received ++ [last]) :
    before = received ∨ before <+: received ∧ before ≠ received := by
  rcases List.prefix_concat_iff.mp early with same | inside
  · exact absurd same other
  · by_cases same : before = received
    · exact Or.inl same
    · exact Or.inr ⟨inside, same⟩

/-- Every step keeps the reckoning. -/
theorem reckons_step {received : List Recv} (reckons : process.Reckons received)
    (stepped : process.step action = some after) :
    after.Reckons (received ++ (process.gives action).toList) := by
  have still := spawned_step reckons.spawned stepped
  have turn := turn_of_step reckons.spawned stepped
  generalize gave : process.gives action = gives at turn
  -- Whatever is given, is given while the loop counts.
  have earlier : ∀ consecutiveErrors last, process.counts = some consecutiveErrors →
      ∀ before, before <+: received ++ [last] → before ≠ received ++ [last] →
        errorsInARow before < maxConsecutiveRecvErrors ∧ .closed ∉ before := by
    intro consecutiveErrors last at_ before early other
    obtain ⟨same, room, open_⟩ := reckons.counts consecutiveErrors at_
    rcases prefix_concat_cases early other with rfl | ⟨inside, apart⟩
    · exact ⟨same ▸ room, open_⟩
    · exact reckons.earlier before inside apart
  cases turn with
  | aside endings counts spawned _ =>
    rw [Option.toList_none, List.append_nil]
    refine ⟨still, fun none_ => reckons.unspawned (spawned none_), ?_, ?_, ?_, reckons.earlier⟩
    · intro consecutiveErrors counting
      rcases counts with same | gone | ⟨fresh, begins⟩
      · exact reckons.counts consecutiveErrors (same ▸ counting)
      · rw [gone] at counting
        contradiction
      · rw [begins] at counting
        obtain rfl := Option.some.inj counting
        rw [reckons.unspawned fresh]
        exact ⟨rfl, by decide, List.not_mem_nil⟩
    · rw [← reckons.budget]
      rcases endings with same | ⟨task, error, same⟩
      · rw [same]
      · simp [same, (not_endingReason task error).1]
    · rw [← reckons.closed]
      rcases endings with same | ⟨task, error, same⟩
      · rw [same]
      · simp [same, (not_endingReason task error).2]
  | delivered at_ counts endings spawned _ =>
    obtain ⟨same, room, open_⟩ := reckons.counts _ at_
    have none_ : errorsInARow (received ++ [.delivered]) = 0 :=
      errorsInARow_other received (by decide)
    refine ⟨still, fun other => absurd other spawned, ?_, ?_, ?_, earlier _ _ at_⟩
    · intro consecutiveErrors counting
      rw [counts] at counting
      obtain rfl := Option.some.inj counting
      exact ⟨none_.symm, by decide, by simpa using open_⟩
    · have unspent : ¬ maxConsecutiveRecvErrors ≤ errorsInARow received := by omega
      rw [endings, reckons.budget, Option.toList_some, none_]
      exact ⟨fun spent => absurd spent unspent, fun spent => absurd spent (by decide)⟩
    · rw [endings, reckons.closed]
      simp
  | closed at_ counts endings spawned _ =>
    obtain ⟨same, room, open_⟩ := reckons.counts _ at_
    have none_ : errorsInARow (received ++ [.closed]) = 0 :=
      errorsInARow_other received (by decide)
    refine ⟨still, fun other => absurd other spawned, ?_, ?_, ?_, earlier _ _ at_⟩
    · intro consecutiveErrors counting
      rw [counts] at counting
      contradiction
    · have unspent : pastBudget ∉ process.endings := by
        rw [reckons.budget]
        omega
      have apart : pastBudget ≠ streamClosed := by decide
      rw [endings, Option.toList_some, none_]
      simp [unspent, apart, maxConsecutiveRecvErrors]
    · rw [endings]
      simp
  | error at_ room counts endings spawned _ =>
    obtain ⟨same, -, open_⟩ := reckons.counts _ at_
    have more := errorsInARow_error received
    refine ⟨still, fun other => absurd other spawned, ?_, ?_, ?_, earlier _ _ at_⟩
    · intro consecutiveErrors counting
      rw [counts] at counting
      obtain rfl := Option.some.inj counting
      exact ⟨by rw [same]; exact more.symm, room, by simpa using open_⟩
    · rw [endings, reckons.budget, Option.toList_some, more]
      omega
    · rw [endings, reckons.closed]
      simp
  | budget at_ spent counts endings spawned _ =>
    obtain ⟨same, -, open_⟩ := reckons.counts _ at_
    have more := errorsInARow_error received
    refine ⟨still, fun other => absurd other spawned, ?_, ?_, ?_, earlier _ _ at_⟩
    · intro consecutiveErrors counting
      rw [counts] at counting
      contradiction
    · rw [endings, Option.toList_some, more]
      simp only [List.mem_append, List.mem_singleton, or_true, true_iff]
      omega
    · have apart : streamClosed ≠ pastBudget := by decide
      rw [endings, Option.toList_some]
      simp [reckons.closed, apart]

/-- With the flag sent, what is given is what was under way. -/
theorem given_after_flag {guard : Process → Action → Prop} {actions : List Action}
    (run : Steps step guard process actions after) (spawned : process.Spawned)
    (down : process.shutdown = true) :
    (given process actions).length + after.underWay ≤ process.underWay := by
  induction run with
  | refl process => exact Nat.le_of_eq (Nat.zero_add _)
  | @next process middle last action actions met moved rest ih =>
    have later := ih (spawned_step spawned moved) (shutdown_stays spawned moved down)
    have turn := turn_of_step spawned moved
    simp only [given, moved, List.length_append]
    generalize process.gives action = gives at turn ⊢
    cases turn with
    | aside _ _ _ underWay =>
      have less := underWay down
      simp only [Option.toList_none, List.length_nil]
      omega
    | delivered _ _ _ _ underWay => simp only [Option.toList_some, List.length_singleton]; omega
    | closed _ _ _ _ underWay => simp only [Option.toList_some, List.length_singleton]; omega
    | error _ _ _ _ _ underWay => simp only [Option.toList_some, List.length_singleton]; omega
    | budget _ _ _ _ _ underWay => simp only [Option.toList_some, List.length_singleton]; omega

/-- What any run has given is what is counted. -/
theorem reckons_of_steps {actions : List Action}
    (run : Steps step anyStep (start natsUrl) actions process) :
    process.Reckons (given (start natsUrl) actions) := by
  have keeps : ∀ (actions : List Action) (before : Process) (action : Action) (after : Process),
      (Steps step anyStep (start natsUrl) actions before ∧
        before.Reckons (given (start natsUrl) actions)) →
      anyStep before action → before.step action = some after →
      Steps step anyStep (start natsUrl) (actions ++ [action]) after ∧
        after.Reckons (given (start natsUrl) (actions ++ [action])) := by
    rintro actions before action after ⟨run, reckons⟩ - stepped
    refine ⟨run.snoc trivial stepped, ?_⟩
    rw [given_snoc run stepped]
    exact reckons_step reckons stepped
  have begins : (start natsUrl).Reckons [] := by
    refine ⟨spawned_start natsUrl, fun _ => rfl, ?_, ?_, ?_, ?_⟩
    · intro consecutiveErrors counting
      contradiction
    · exact ⟨fun other => by contradiction, fun other => by contradiction⟩
    · exact ⟨fun other => by contradiction, fun other => by contradiction⟩
    · intro before early other
      exact absurd (List.prefix_nil.mp early) other
  exact (run.traced keeps ⟨.refl _, begins⟩).2

/-- The budget of `consume` is exact. In every run of the process, whatever its other tasks do, the
loop has given up on the budget if and only if the last ten things that `recv` gave were errors,
and as closed if and only if `recv` gave the end of the stream; it was the first time for either,
since nothing is received after it; while it loops it counts the errors since the last delivery,
fewer than ten; and once the flag has been sent, `recv` gives at most what it was already at. -/
theorem recv_budget_is_exact (natsUrl : Bool) (actions : List Action) (process : Process)
    (run : Steps step anyStep (start natsUrl) actions process) :
    (pastBudget ∈ process.endings ↔
      maxConsecutiveRecvErrors ≤ errorsInARow (given (start natsUrl) actions)) ∧
    (streamClosed ∈ process.endings ↔ .closed ∈ given (start natsUrl) actions) ∧
    (∀ before, before <+: given (start natsUrl) actions → before ≠ given (start natsUrl) actions →
      errorsInARow before < maxConsecutiveRecvErrors ∧ .closed ∉ before) ∧
    (∀ consecutiveErrors, process.counts = some consecutiveErrors →
      consecutiveErrors = errorsInARow (given (start natsUrl) actions) ∧
        consecutiveErrors < maxConsecutiveRecvErrors) ∧
    ∀ onward later, process.shutdown = true → Steps step anyStep process onward later →
      (given process onward).length ≤ process.underWay ∧ process.underWay ≤ 1 := by
  have reckons := reckons_of_steps run
  refine ⟨reckons.budget, reckons.closed, reckons.earlier, ?_, ?_⟩
  · intro consecutiveErrors counting
    obtain ⟨same, room, -⟩ := reckons.counts consecutiveErrors counting
    exact ⟨same, room⟩
  · intro onward later down goesOn
    have most := given_after_flag goesOn reckons.spawned down
    refine ⟨by omega, ?_⟩
    unfold underWay
    split <;> decide

/-- `recv` gives this to a process whose intake loops. -/
def sampleReceives (received : Recv) : List Action := [.intake received, .intake received]

/-- Nine errors, a delivery and ten errors; then the loop fails loud and `main` reads the flag. -/
def sampleOverspent : List Action :=
  [.main, .main, .main, .main, .main, .main, .main, .main] ++
    (List.replicate 9 Recv.error ++ Recv.delivered :: List.replicate 10 Recv.error).flatMap
      sampleReceives ++
    [.intake .error, .intake .error, .main]

/-- The process once its budget is spent. -/
def sampleSpent : Process := (play step (start true) sampleOverspent).get (by decide)

/-- The budget was spent, and not before. -/
theorem recv_budget_is_exact_sample :
    pastBudget ∈ sampleSpent.endings ∧ streamClosed ∉ sampleSpent.endings ∧
      errorsInARow ((given (start true) sampleOverspent).take 19) < maxConsecutiveRecvErrors := by
  have spent := recv_budget_is_exact true sampleOverspent sampleSpent
    (steps_of_play (Option.some_get _).symm)
  refine ⟨spent.1.mpr (by decide), fun closed => absurd (spent.2.1.mp closed) (by decide), ?_⟩
  exact (spent.2.2.1 _ (List.take_prefix _ _) (by decide)).1

end SvcNotifier.Process
