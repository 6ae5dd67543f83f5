import SvcNotifier.Supervision

/-!
# Readiness after a report

Where `set_ready` runs before any ending has been reported, and `main` reads the flag when every
ending reported has sent it, a reported ending stays visible: readiness does not come back and
the exit code is not zero. Out of that order neither holds: `set_ready` overwrites an earlier
`set_not_ready`, and what is reported after `main` has read the flag does not change the exit
code.
-/

namespace SvcNotifier.Process

open Library

variable {process after : Process} {action : Action} {natsUrl : Bool}

/-! ## What is known of every run -/

/-- What every process keeps. -/
structure Accounted (process : Process) : Prop where
  /-- Nothing runs before it is spawned. -/
  spawned : process.Spawned
  /-- Without an abnormal ending there is no alarm, no report, and only `main` sends the flag. -/
  quiet : process.endings = [] → process.alarmed = false ∧ process.reports = [] ∧
    (process.shutdown = true → process.main.verdict = some false) ∧
    process.main.verdict ≠ some true
  /-- The flag follows the report. -/
  told : process.reports ≠ [] → process.shutdown = true ∨ process.sending = true

/-- When the process starts. -/
theorem accounted_start (natsUrl : Bool) : (start natsUrl).Accounted := by
  refine ⟨spawned_start natsUrl, ?_, ?_⟩
  · intro _
    refine ⟨rfl, rfl, ?_, ?_⟩
    · intro down
      contradiction
    · intro read
      contradiction
  · intro told
    exact absurd rfl told

/-- A step keeps the account. -/
theorem accounted_step (accounted : process.Accounted)
    (stepped : process.step action = some after) : after.Accounted := by
  have spawned := spawned_step accounted.spawned stepped
  cases moves_of_step accounted.spawned stepped with
  | setReady at_ =>
    refine ⟨spawned, ?_, accounted.told⟩
    intro unended
    obtain ⟨silent, untold, down, _⟩ := accounted.quiet unended
    refine ⟨silent, untold, ?_, ?_⟩
    · intro flagged
      have read := down flagged
      rw [at_] at read
      contradiction
    · intro read
      contradiction
  | readFlag at_ =>
    refine ⟨spawned, ?_, accounted.told⟩
    intro unended
    obtain ⟨silent, untold, down, _⟩ := accounted.quiet unended
    have up : process.shutdown = false := by
      apply Bool.eq_false_iff.mpr
      intro flagged
      have read := down flagged
      rw [at_] at read
      contradiction
    refine ⟨silent, untold, ?_, ?_⟩
    · intro flagged
      exact absurd flagged (Bool.eq_false_iff.mp up)
    · intro read
      have same : process.shutdown = true := Option.some.inj read
      exact absurd same (Bool.eq_false_iff.mp up)
  | @sendFlag terminatedAbnormally at_ =>
    refine ⟨spawned, ?_, fun _ => Or.inl rfl⟩
    intro unended
    obtain ⟨silent, untold, _, unread⟩ := accounted.quiet unended
    rw [at_] at unread
    have verdict : terminatedAbnormally = false := by
      apply Bool.eq_false_iff.mpr
      intro abnormal
      exact unread (congrArg some abnormal)
    refine ⟨silent, untold, fun _ => congrArg some verdict, unread⟩
  | aside verdict aside =>
    refine ⟨spawned, ?_, ?_⟩
    · intro unended
      rw [aside.endings] at unended
      obtain ⟨silent, untold, down, unread⟩ := accounted.quiet unended
      refine ⟨?_, ?_, ?_, ?_⟩
      · apply Bool.eq_false_iff.mpr
        intro raised
        exact absurd (aside.alarmed raised) (Bool.eq_false_iff.mp silent)
      · rw [aside.reports]
        exact untold
      · rw [aside.shutdown, verdict]
        exact down
      · rw [verdict]
        exact unread
    · rw [aside.reports, aside.shutdown]
      intro told
      exact (accounted.told told).imp id aside.sending.trans
  | @ends _ _ reason main readiness shutdown endings reports sending =>
    refine ⟨spawned, ?_, ?_⟩
    · intro unended
      rw [endings] at unended
      exact absurd unended (List.append_ne_nil_of_right_ne_nil _ (List.cons_ne_nil _ _))
    · rw [reports, shutdown]
      intro told
      exact (accounted.told told).imp id sending.trans
  | report reporting alarmed main readiness shutdown endings reports sending =>
    refine ⟨spawned, ?_, fun _ => Or.inr sending⟩
    intro unended
    rw [endings] at unended
    have silent := (accounted.quiet unended).1
    exact absurd alarmed (Bool.eq_false_iff.mp silent)
  | send alarmed sending main readiness shutdown endings reports =>
    refine ⟨spawned, ?_, fun _ => Or.inl shutdown⟩
    intro unended
    rw [endings] at unended
    have silent := (accounted.quiet unended).1
    exact absurd alarmed (Bool.eq_false_iff.mp silent)

/-- Every run keeps the account. -/
theorem accounted_of_reaches {guard : Process → Action → Prop}
    (reached : Reaches step guard (start natsUrl) process) : process.Accounted :=
  reached.invariant (fun _ _ _ accounted _ stepped => accounted_step accounted stepped)
    (accounted_start natsUrl)

/-- A flag that is sent, or about to be, has been preceded by a report, as long as `main` has not
read it. -/
structure Preceded (process : Process) : Prop where
  /-- Nothing runs before it is spawned. -/
  spawned : process.Spawned
  /-- A task sends the flag after its report. -/
  sending : process.sending = true → process.reports ≠ []
  /-- The flag is sent by such a task, or by `main` when it has read it. -/
  shutdown : process.shutdown = true → process.reports ≠ [] ∨ process.main.verdict.isSome = true

/-- A step of a task or of `main` keeps the reports before the flag. -/
theorem preceded_step (preceded : process.Preceded)
    (stepped : process.step action = some after) : after.Preceded := by
  have spawned := spawned_step preceded.spawned stepped
  cases moves_of_step preceded.spawned stepped with
  | setReady at_ =>
    refine ⟨spawned, preceded.sending, ?_⟩
    intro down
    have before := preceded.shutdown down
    rw [at_] at before
    exact before
  | readFlag at_ => exact ⟨spawned, preceded.sending, fun _ => Or.inr rfl⟩
  | sendFlag at_ => exact ⟨spawned, preceded.sending, fun _ => Or.inr rfl⟩
  | aside verdict aside =>
    refine ⟨spawned, ?_, ?_⟩
    · rw [aside.sending, aside.reports]
      exact preceded.sending
    · rw [aside.shutdown, aside.reports, verdict]
      exact preceded.shutdown
  | ends main readiness shutdown endings reports sending =>
    refine ⟨spawned, ?_, ?_⟩
    · rw [sending, reports]
      exact preceded.sending
    · rw [shutdown, reports, main]
      exact preceded.shutdown
  | report reporting alarmed main readiness shutdown endings reports sending =>
    have told : after.reports ≠ [] := by
      rw [reports]
      exact List.append_ne_nil_of_right_ne_nil _ (List.cons_ne_nil _ [])
    exact ⟨spawned, fun _ => told, fun _ => Or.inl told⟩
  | send alarmed sending main readiness shutdown endings reports =>
    have told : after.reports ≠ [] := by
      rw [reports]
      exact preceded.sending sending
    exact ⟨spawned, fun _ => told, fun _ => Or.inl told⟩

/-- In every run a report precedes the flag that `main` has not read. -/
theorem preceded_of_reaches {guard : Process → Action → Prop}
    (reached : Reaches step guard (start natsUrl) process) : process.Preceded := by
  have keeps : ∀ earlier action later, earlier.Preceded → guard earlier action →
      step earlier action = some later → later.Preceded :=
    fun _ _ _ preceded _ stepped => preceded_step preceded stepped
  apply reached.invariant keeps
  refine ⟨spawned_start natsUrl, ?_, ?_⟩
  · intro sending
    contradiction
  · intro down
    contradiction

/-! ## Readiness and the exit code after a report -/

/-- The step is not one of those that hide a reported ending: `set_ready` runs before any
report, and `main` reads the flag after every report has sent it. -/
structure Timely (process : Process) (action : Action) : Prop where
  /-- `set_ready` runs where nothing has been reported. -/
  setReady : action = .main → process.main = .portBound → process.reports = []
  /-- `main` reads the flag where a report has sent it. -/
  readFlag : action = .main → process.main = .served → process.reports ≠ [] →
    process.shutdown = true
  /-- Nothing is reported where `main` has read that the flag is not set. -/
  report : process.Reports action → process.main.verdict ≠ some false

/-- Whether the step is a report. -/
instance (process : Process) (action : Action) : Decidable (process.Reports action) :=
  match action with
  | .intake _ => match at_ : process.intake with
    | .running (.failing reason) => isTrue ⟨reason, at_⟩
    | .unspawned | .returned | .died _ | .running (.polling _) | .running (.receiving _)
    | .running .failed | .running .draining => isFalse fun ⟨reason, same⟩ => by simp [at_] at same
  | .supervise task => match at_ : process.supervisors task with
    | .failing reason => isTrue ⟨reason, at_⟩
    | .unspawned | .awaiting | .failed | .returned =>
      isFalse fun ⟨reason, same⟩ => by simp [at_] at same
  | .main | .fail | .signal | .traffic _ | .wake | .die _ _ => isFalse id

/-- Whether the step is timely. -/
instance (process : Process) (action : Action) : Decidable (process.Timely action) :=
  decidable_of_iff
    ((action = .main → process.main = .portBound → process.reports = []) ∧
      (action = .main → process.main = .served → process.reports ≠ [] →
        process.shutdown = true) ∧
      (process.Reports action → process.main.verdict ≠ some false))
    ⟨fun ⟨ready, read, report⟩ => ⟨ready, read, report⟩,
      fun timely => ⟨timely.setReady, timely.readFlag, timely.report⟩⟩

/-- The probe is down and the exit code, once there is one, is not zero. -/
structure Loud (process : Process) : Prop where
  /-- The probe is down. -/
  unready : process.readiness ≠ .ready
  /-- The exit code is not zero. -/
  nonzero : process.main.exitCode ≠ some 0

/-- Readiness and what `main` has read agree with the reports. -/
structure Candid (process : Process) : Prop where
  /-- The probe is down after a report. -/
  unready : process.reports ≠ [] → process.readiness ≠ .ready
  /-- Nothing has been reported where `main` has read that the flag is not set. -/
  verdict : process.main.verdict = some false → process.reports = []

/-- A timely step keeps them in agreement. -/
theorem candid_step (spawned : process.Spawned) (candid : process.Candid)
    (timely : process.Timely action) (stepped : process.step action = some after) :
    after.Candid := by
  cases moves_of_step spawned stepped with
  | setReady at_ =>
    have untold := timely.setReady rfl at_
    exact ⟨fun told => absurd untold told, fun _ => untold⟩
  | readFlag at_ =>
    refine ⟨candid.unready, ?_⟩
    intro read
    have up : process.shutdown = false := Option.some.inj read
    by_cases told : process.reports = []
    · exact told
    · have down := timely.readFlag rfl at_ told
      rw [up] at down
      contradiction
  | sendFlag at_ =>
    refine ⟨candid.unready, ?_⟩
    intro read
    apply candid.verdict
    rw [at_]
    exact read
  | aside verdict aside =>
    refine ⟨?_, ?_⟩
    · rw [aside.reports, aside.readiness]
      exact candid.unready
    · rw [aside.reports, verdict]
      exact candid.verdict
  | ends main readiness shutdown endings reports sending =>
    refine ⟨?_, ?_⟩
    · rw [reports, readiness]
      exact candid.unready
    · rw [reports, main]
      exact candid.verdict
  | report reporting alarmed main readiness shutdown endings reports sending =>
    refine ⟨?_, ?_⟩
    · intro _
      rw [readiness]
      intro ready
      contradiction
    · intro read
      rw [main] at read
      exact absurd read (timely.report reporting)
  | send alarmed sending main readiness shutdown endings reports =>
    refine ⟨?_, ?_⟩
    · rw [reports, readiness]
      exact candid.unready
    · rw [reports, main]
      exact candid.verdict

/-- A timely run keeps them in agreement. -/
theorem candid_of_reaches (reached : Reaches step Timely (start natsUrl) process) :
    process.Candid := by
  have keeps : ∀ earlier action later, earlier.Spawned ∧ earlier.Candid →
      earlier.Timely action → step earlier action = some later →
        later.Spawned ∧ later.Candid := by
    intro earlier action later ⟨spawned, candid⟩ timely stepped
    exact ⟨spawned_step spawned stepped, candid_step spawned candid timely stepped⟩
  have begins : (start natsUrl).Candid := by
    refine ⟨fun told => absurd rfl told, ?_⟩
    intro read
    contradiction
  exact (reached.invariant keeps ⟨spawned_start natsUrl, begins⟩).2

/-- An exit code of zero is what `main` has read. -/
theorem verdict_of_exitCode {main : Main} (exited : main.exitCode = some 0) :
    main.verdict = some false := by
  cases main with
  | returned terminatedAbnormally =>
    cases terminatedAbnormally with
    | true => contradiction
    | false => rfl
  | _ => contradiction

/-- A process that is candid about an ending is loud. -/
theorem Candid.loud (candid : process.Candid) (told : process.reports ≠ []) : process.Loud :=
  ⟨candid.unready told, fun exited => told (candid.verdict (verdict_of_exitCode exited))⟩

/-! ## What an untimely step leads to -/

/-- Once `main` has read a flag that is not set it exits with zero, whatever is reported. -/
theorem exits_zero (read : process.main.verdict = some false) :
    ∃ final, Reaches step anyStep process final ∧ final.reports = process.reports ∧
      final.main.exitCode = some 0 := by
  have returns : ∀ process : Process, process.main = .flagSent false →
      process.step .main = some { process with main := .returned false } := by
    intro process at_
    rw [step_main (by rw [at_]; rfl)]
    unfold runMain
    rw [at_]
  cases at_ : process.main with
  | flagRead terminatedAbnormally =>
    rw [at_] at read
    obtain rfl : terminatedAbnormally = false := Option.some.inj read
    have sends : process.step .main =
        some { process.sendShutdown with main := .flagSent false } := by
      rw [step_main (by rw [at_]; rfl)]
      unfold runMain
      rw [at_]
    have reached : Reaches step anyStep process _ := (Reaches.refl process).snoc trivial sends
    exact ⟨_, reached.snoc trivial (returns _ rfl), rfl, rfl⟩
  | flagSent terminatedAbnormally =>
    rw [at_] at read
    obtain rfl : terminatedAbnormally = false := Option.some.inj read
    exact ⟨_, (Reaches.refl process).snoc trivial (returns process at_), rfl, rfl⟩
  | returned terminatedAbnormally =>
    rw [at_] at read
    obtain rfl : terminatedAbnormally = false := Option.some.inj read
    exact ⟨process, .refl process, rfl, by rw [at_]; rfl⟩
  | _ =>
    rw [at_] at read
    contradiction

/-- The step of a report. -/
theorem reported_of_step (reporting : process.Reports action)
    (stepped : process.step action = some after) :
    after.main = process.main ∧ after.reports ≠ [] := by
  have some_ : ∀ reason, process.reports ++ [reason] ≠ [] := fun reason =>
    List.append_ne_nil_of_right_ne_nil _ (List.cons_ne_nil reason [])
  cases action with
  | intake received =>
    obtain ⟨reason, at_⟩ := reporting
    have ran := step_intake stepped
    simp only [runIntake, at_] at ran
    obtain rfl := Option.some.inj ran
    exact ⟨rfl, some_ reason⟩
  | supervise task =>
    obtain ⟨reason, at_⟩ := reporting
    have ran := step_supervise stepped
    simp only [runSupervisor, at_] at ran
    obtain rfl := Option.some.inj ran
    exact ⟨rfl, some_ reason⟩
  | _ => contradiction

/-- An untimely step leads to a process that has reported an ending and is not loud. -/
theorem hidden_of_untimely (untimely : ¬ process.Timely action)
    (stepped : process.step action = some after) :
    ∃ final, Reaches step anyStep after final ∧ final.reports ≠ [] ∧ ¬ final.Loud := by
  have zero : after.main.verdict = some false → after.reports ≠ [] →
      ∃ final, Reaches step anyStep after final ∧ final.reports ≠ [] ∧ ¬ final.Loud := by
    intro read told
    obtain ⟨final, reached, same, exited⟩ := exits_zero read
    exact ⟨final, reached, same ▸ told, fun loud => loud.nonzero exited⟩
  have running := running_of_step stepped
  by_cases timely : (action = .main → process.main = .portBound → process.reports = []) ∧
      (action = .main → process.main = .served → process.reports ≠ [] → process.shutdown = true)
  · have late : ¬ (process.Reports action → process.main.verdict ≠ some false) := fun report =>
      untimely ⟨timely.1, timely.2, report⟩
    obtain ⟨reporting, read⟩ := Classical.not_imp.mp late
    obtain ⟨main, told⟩ := reported_of_step reporting stepped
    apply zero _ told
    rw [main]
    exact not_not.mp read
  · rcases not_and_or.mp timely with early | early
    · obtain ⟨rfl, atPort, told⟩ : action = .main ∧ process.main = .portBound ∧
          process.reports ≠ [] := by
        simpa only [Classical.not_imp] using early
      rw [step_main running] at stepped
      simp only [runMain, atPort] at stepped
      obtain rfl := Option.some.inj stepped
      exact ⟨_, .refl _, told, fun loud => loud.unready rfl⟩
    · obtain ⟨rfl, atServed, told, up⟩ : action = .main ∧ process.main = .served ∧
          process.reports ≠ [] ∧ process.shutdown ≠ true := by
        simpa only [Classical.not_imp] using early
      rw [step_main running] at stepped
      simp only [runMain, atServed] at stepped
      obtain rfl := Option.some.inj stepped
      exact zero (congrArg some (Bool.eq_false_iff.mpr up)) told

end SvcNotifier.Process
