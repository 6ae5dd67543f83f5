import SvcNotifier.BootGap
import SvcNotifier.Library.Fairness

/-!
# The turns of the listener

A listener that listens and gets its turns comes to every place of the log: each dispatch
returns, since every call of it leaves less of it, and then the next signal is taken.
-/

namespace SvcNotifier.Boot

open Library Program

variable {state after : Boot} {natsUrl : Bool} {table : Notifications}

/-! ## The turns of the listener -/

/-- What the listener does once it listens. -/
def Action.ofListener : Action → Prop
  | .hub .receive => True
  | .hub (.run _) => True
  | .hub .finish => True
  | _ => False

/-- A step of somebody else leaves the dispatch under way and the listener's place alone. -/
theorem others_step {action : Action} (others : ¬ action.ofListener)
    (listens : state.listens = true)
    (stepped : state.step action = some after) :
    after.hub.dispatching = state.hub.dispatching ∧ after.hub.position = state.hub.position := by
  cases moves_of_step stepped with
  | listen at_ =>
    unfold Boot.listens at listens
    rw [at_] at listens
    contradiction
  | hub admitted moved =>
    cases Realtime.moves_of_step moved with
    | relisten idle => contradiction
    | receive idle notified => exact absurd trivial others
    | run at_ => exact absurd trivial others
    | finish at_ => exact absurd trivial others
    | _ => exact ⟨rfl, rfl⟩
  | _ => exact ⟨rfl, rfl⟩

/-- The listener's next call. -/
theorem runs_step {action : Action} {signal : NotificationSignal} {request : HubCall}
    {next : request.Reply → Dispatch} (own : action.ofListener)
    (at_ : state.hub.dispatching = some (signal, .call request next))
    (stepped : state.step action = some after) :
    ∃ reply, after.hub.dispatching = some (signal, next reply) := by
  cases moves_of_step stepped with
  | hub admitted moved =>
    cases Realtime.moves_of_step moved with
    | receive idle notified =>
      rw [at_] at idle
      contradiction
    | run found =>
      obtain ⟨rfl, same⟩ := Prod.mk.inj (Option.some.inj (at_.symm.trans found))
      obtain ⟨rfl, rest⟩ := Program.call.inj same
      obtain rfl := eq_of_heq rest
      exact ⟨_, rfl⟩
    | finish found =>
      rw [at_] at found
      have same := (Prod.mk.inj (Option.some.inj found)).2
      contradiction
    | _ => contradiction
  | _ => contradiction

/-- The listener returns from a dispatch. -/
theorem finishes_step {action : Action} {signal : NotificationSignal}
    (own : action.ofListener) (at_ : state.hub.dispatching = some (signal, .done ⟨⟩))
    (stepped : state.step action = some after) : after.hub.dispatching = none := by
  cases moves_of_step stepped with
  | hub admitted moved =>
    cases Realtime.moves_of_step moved with
    | receive idle notified =>
      rw [at_] at idle
      contradiction
    | run found =>
      rw [at_] at found
      have same := (Prod.mk.inj (Option.some.inj found)).2
      contradiction
    | finish found => rfl
    | _ => contradiction
  | _ => contradiction

/-- The listener takes the next signal. -/
theorem receives_step {action : Action} (own : action.ofListener)
    (idle : state.hub.dispatching = none) (stepped : state.step action = some after) :
    after.hub.position = state.hub.position + 1 := by
  cases moves_of_step stepped with
  | hub admitted moved =>
    cases Realtime.moves_of_step moved with
    | receive idle notified => rfl
    | run found =>
      rw [idle] at found
      contradiction
    | finish found =>
      rw [idle] at found
      contradiction
    | _ => contradiction
  | _ => contradiction

/-- A listener that is dispatching has a step to take. -/
theorem turn_of_busy {signal : NotificationSignal} {program : Dispatch}
    (listens : state.listens = true) (busy : state.hub.dispatching = some (signal, program)) :
    Endless.Enabled step Action.ofListener state := by
  cases program with
  | done value =>
    refine ⟨.hub .finish, trivial, ?_⟩
    simp [step, admits, listens, Realtime.step, busy]
  | fail error => exact error.elim
  | call request next =>
    refine ⟨.hub (.run none), trivial, ?_⟩
    simp [step, admits, listens, Realtime.step, busy]

/-- A listener with a signal to take has a step to take. -/
theorem turn_of_idle (listens : state.listens = true) (idle : state.hub.dispatching = none)
    (behind : state.hub.position < state.hub.store.log.length) :
    Endless.Enabled step Action.ofListener state := by
  refine ⟨.hub .receive, trivial, ?_⟩
  simp [step, admits, listens, Realtime.step, idle, List.getElem?_eq_getElem behind]

/-- The listener's place only moves forward. -/
theorem position_step {action : Action} (listens : state.listens = true)
    (stepped : state.step action = some after) :
    state.hub.position ≤ after.hub.position := by
  cases moves_of_step stepped with
  | listen at_ =>
    unfold Boot.listens at listens
    rw [at_] at listens
    contradiction
  | hub admitted moved =>
    cases Realtime.moves_of_step moved with
    | relisten idle => contradiction
    | receive idle notified => exact Nat.le_succ _
    | @run failure signal request next at_ =>
      have same := Realtime.perform_position state.hub signal request
        (state.hub.answer failure request)
      exact Nat.le_of_eq same.symm
    | _ => exact Nat.le_refl _
  | _ => exact Nat.le_refl _

/-! ## Dispatching everything -/

section

variable {guard : Boot → Action → Prop} {run : Endless step guard (start natsUrl table.rows)}

/-- A listener that listens goes on listening. -/
theorem listens_on {base n : Nat} (listening : (run.state n).loop = .listening base) :
    ∀ m, n ≤ m → (run.state m).loop = .listening base :=
  run.stays (fun state => state.loop = .listening base)
    (fun m _ at_ => listening_step at_ (run.moved m)) listening

/-- The log only grows, in any run. -/
theorem log_on (run : Endless step guard (start natsUrl table.rows)) (n : Nat) : ∀ m, n ≤ m →
    (run.state n).hub.store.log <+: (run.state m).hub.store.log :=
  run.stays (fun state => (run.state n).hub.store.log <+: state.hub.store.log)
    (fun m _ grown => grown.trans (log_step (run.moved m))) List.prefix_rfl

/-- A dispatch returns. -/
theorem returns (fair : run.Fair Action.ofListener) {base : Nat} (signal : NotificationSignal)
    (program : Dispatch) : ∀ n, (run.state n).loop = .listening base →
    (run.state n).hub.dispatching = some (signal, program) →
      ∃ m, n ≤ m ∧ (run.state m).hub.dispatching = none := by
  -- The listener's own step is the one that moves the program on, so the program is what the
  -- induction is on.
  induction program with
  | done value =>
    intro n listening busy
    apply run.comes_about
      (fun state => state.loop = .listening base ∧
        state.hub.dispatching = some (signal, .done value))
      (fun state => state.hub.dispatching = none) fair ⟨listening, busy⟩
    · intro m waits
      exact turn_of_busy (listens_of_listening waits.1) waits.2
    · intro m waits own
      exact finishes_step own waits.2 (run.moved m)
    · intro m waits others
      have kept := others_step others (listens_of_listening waits.1) (run.moved m)
      exact ⟨listening_step waits.1 (run.moved m), kept.1.trans waits.2⟩
  | fail error => exact error.elim
  | call request next ih =>
    intro n listening busy
    have moves : ∃ m, n ≤ m ∧ (run.state m).loop = .listening base ∧
        ∃ reply, (run.state m).hub.dispatching = some (signal, next reply) := by
      apply run.comes_about
        (fun state => state.loop = .listening base ∧
          state.hub.dispatching = some (signal, .call request next))
        (fun state => state.loop = .listening base ∧
          ∃ reply, state.hub.dispatching = some (signal, next reply)) fair ⟨listening, busy⟩
      · intro m waits
        exact turn_of_busy (listens_of_listening waits.1) waits.2
      · intro m waits own
        exact ⟨listening_step waits.1 (run.moved m), runs_step own waits.2 (run.moved m)⟩
      · intro m waits others
        have kept := others_step others (listens_of_listening waits.1) (run.moved m)
        exact ⟨listening_step waits.1 (run.moved m), kept.1.trans waits.2⟩
    obtain ⟨m, later, listening, reply, busy⟩ := moves
    obtain ⟨last, after, idle⟩ := ih reply m listening busy
    exact ⟨last, Nat.le_trans later after, idle⟩

/-- A listener that listens is idle again and again. -/
theorem idles (fair : run.Fair Action.ofListener) {base n : Nat}
    (listening : (run.state n).loop = .listening base) :
    ∃ m, n ≤ m ∧ (run.state m).hub.dispatching = none := by
  cases busy : (run.state n).hub.dispatching with
  | none => exact ⟨n, Nat.le_refl n, busy⟩
  | some dispatch =>
    obtain ⟨signal, program⟩ := dispatch
    exact returns fair signal program n listening busy

/-- An idle listener takes the next signal. -/
theorem receives (fair : run.Fair Action.ofListener) {base n : Nat}
    (listening : (run.state n).loop = .listening base)
    (idle : (run.state n).hub.dispatching = none)
    (behind : (run.state n).hub.position < (run.state n).hub.store.log.length) :
    ∃ m, n ≤ m ∧ (run.state m).hub.position = (run.state n).hub.position + 1 := by
  apply run.comes_about
    (fun state => state.loop = .listening base ∧ state.hub.dispatching = none ∧
      state.hub.position = (run.state n).hub.position ∧
        (run.state n).hub.position < state.hub.store.log.length)
    (fun state => state.hub.position = (run.state n).hub.position + 1) fair
    ⟨listening, idle, rfl, behind⟩
  · intro m waits
    obtain ⟨listening, idle, place, behind⟩ := waits
    exact turn_of_idle (listens_of_listening listening) idle (place ▸ behind)
  · intro m waits own
    obtain ⟨_, idle, place, _⟩ := waits
    rw [receives_step own idle (run.moved m), place]
  · intro m waits others
    obtain ⟨listening, idle, place, behind⟩ := waits
    have kept := others_step others (listens_of_listening listening) (run.moved m)
    have grown := (log_step (run.moved m)).length_le
    exact ⟨listening_step listening (run.moved m), kept.1.trans idle, kept.2.trans place,
      Nat.lt_of_lt_of_le behind grown⟩

/-- The listener's place only moves forward, in any run. -/
theorem position_on {base n : Nat} (listening : (run.state n).loop = .listening base) :
    ∀ m, n ≤ m → (run.state n).hub.position ≤ (run.state m).hub.position := by
  intro m later
  have both : (run.state m).loop = .listening base ∧
      (run.state n).hub.position ≤ (run.state m).hub.position := by
    apply run.stays (fun state => state.loop = .listening base ∧
      (run.state n).hub.position ≤ state.hub.position) ?_ ⟨listening, Nat.le_refl _⟩ m later
    intro m _ at_
    obtain ⟨listening, forward⟩ := at_
    have onward := position_step (listens_of_listening listening) (run.moved m)
    exact ⟨listening_step listening (run.moved m), Nat.le_trans forward onward⟩
  exact both.2

/-- A listener that gets its turns comes to every place of the log. -/
theorem catches_up (fair : run.Fair Action.ofListener) {base n : Nat}
    (listening : (run.state n).loop = .listening base) (place : Nat)
    (committed : place ≤ (run.state n).hub.store.log.length) :
    ∃ m, n ≤ m ∧ (run.state m).hub.dispatching = none ∧ place ≤ (run.state m).hub.position := by
  induction place with
  | zero =>
    obtain ⟨m, later, idle⟩ := idles fair listening
    exact ⟨m, later, idle, Nat.zero_le _⟩
  | succ place ih =>
    obtain ⟨first, later, idle, reached⟩ := ih (Nat.le_of_succ_le committed)
    by_cases past : place < (run.state first).hub.position
    · exact ⟨first, later, idle, past⟩
    · have here : (run.state first).hub.position = place :=
        Nat.le_antisymm (Nat.not_lt.mp past) reached
      have still := listens_on listening first later
      have grown := (log_on run n first later).length_le
      have behind : (run.state first).hub.position <
          (run.state first).hub.store.log.length := by omega
      obtain ⟨second, next, taken⟩ := receives fair still idle behind
      have goesOn := listens_on still second next
      obtain ⟨third, last, free⟩ := idles fair goesOn
      have onward := position_on goesOn third last
      refine ⟨third, by omega, free, ?_⟩
      omega

end

end SvcNotifier.Boot
