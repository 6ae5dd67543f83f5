import SvcNotifier.Process
import SvcNotifier.Rings
import SvcNotifier.Streams

/-!
# One process from its boot, over the database

`main` spawns the listener, binds the port, sets readiness and serves. The listener connects and
runs `LISTEN` on its own task, and nothing `main` does waits for that. A commit notifies the
connections that listen at that time; it is not replayed to one that listens later. Streams are
opened, read and closed, and lists are queried, while `main` serves. No task fails and no
connection drops here.
-/

namespace SvcNotifier

open Library Program

/-- Where `listen_loop` stands. -/
inductive ListenLoop where
  /-- The connection is yet to be made, or to be made again. -/
  | connecting
  /-- `PgListener::connect_with` has returned. -/
  | connected
  /-- `LISTEN` has run, when so many signals had been committed. -/
  | listening (base : Nat)
  deriving DecidableEq, Repr

/-- A process, its listener, and its streams over the database that all instances share. -/
structure Boot where
  /-- `main`, its tasks and its supervisors. -/
  process : Process
  /-- The listener. -/
  loop : ListenLoop
  /-- The streams, the channels and the database. -/
  hub : Realtime

namespace Boot

/-- A process that is starting up, over a database with a table. -/
def start (natsUrl : Bool) (rows : List Row) : Boot :=
  { process := Process.start natsUrl, loop := .connecting, hub := Realtime.start rows }

/-- The listener listens. -/
def listens (state : Boot) : Bool :=
  match state.loop with
  | .listening _ => true
  | _ => false

/-- `main` serves. -/
def serves (state : Boot) : Bool := state.process.main == .serving

/-- What may happen on the realtime side: anything in the database, what the listener does once
it listens, and what clients do while `main` serves. -/
def admits (state : Boot) : Realtime.Action → Bool
  | .database _ => true
  | .relisten => false
  | .receive => state.listens
  | .run _ => state.listens
  | .finish => state.listens
  | .subscribe _ => state.serves
  | .poll _ => state.serves
  | .close _ => state.serves

/-- What happens next. -/
inductive Action where
  /-- The next statement of `main`. -/
  | main
  /-- The listener is connected. -/
  | connect
  /-- Its `LISTEN` runs. -/
  | listen
  /-- A client queries a list, which changes nothing. -/
  | snapshot
  /-- The realtime side takes a step. -/
  | hub (action : Realtime.Action)

/-- One step. -/
def step (state : Boot) : Action → Option Boot
  | .main => match state.process.step .main with
    | some process => some { state with process := process }
    | none => none
  | .connect => match state.loop, state.process.listener with
    | .connecting, .running _ => some { state with loop := .connected }
    | _, _ => none
  | .listen => match state.loop with
    | .connected => some { state with
        loop := .listening state.hub.store.log.length
        hub := { state.hub with position := state.hub.store.log.length } }
    | _ => none
  | .snapshot => if state.serves then some state else none
  | .hub action =>
    if state.admits action then match state.hub.step action with
      | some hub => some { state with hub := hub }
      | none => none
    else none

/-- Everything one step can do, with what it was found doing. -/
inductive Moves (state : Boot) : Action → Boot → Prop where
  /-- `main` goes on. -/
  | main {process : Process} (stepped : state.process.step .main = some process) :
      Moves state .main { state with process := process }
  /-- The listener has connected. -/
  | connect (at_ : state.loop = .connecting) :
      Moves state .connect { state with loop := .connected }
  /-- `LISTEN` has run: what is committed from here on is heard. -/
  | listen (at_ : state.loop = .connected) :
      Moves state .listen { state with
        loop := .listening state.hub.store.log.length
        hub := { state.hub with position := state.hub.store.log.length } }
  /-- A query of a list; nothing changes. -/
  | snapshot : Moves state .snapshot state
  /-- The streams, the dispatches and the database, as far as the process has come. -/
  | hub {action : Realtime.Action} {hub : Realtime} (admitted : state.admits action = true)
      (stepped : state.hub.step action = some hub) :
      Moves state (.hub action) { state with hub := hub }

/-- A step does one of these things. -/
theorem moves_of_step {state after : Boot} {action : Action}
    (stepped : state.step action = some after) : state.Moves action after := by
  cases action with
  | main =>
    simp only [step] at stepped
    split at stepped
    · rename_i process moved
      obtain rfl := Option.some.inj stepped
      exact .main moved
    · contradiction
  | connect =>
    simp only [step] at stepped
    split at stepped
    · rename_i at_ running
      obtain rfl := Option.some.inj stepped
      exact .connect at_
    · contradiction
  | listen =>
    simp only [step] at stepped
    split at stepped
    · rename_i at_
      obtain rfl := Option.some.inj stepped
      exact .listen at_
    · contradiction
  | snapshot =>
    simp only [step] at stepped
    by_cases serving : state.serves = true
    · rw [if_pos serving] at stepped
      obtain rfl := Option.some.inj stepped
      exact .snapshot
    · rw [if_neg serving] at stepped
      contradiction
  | hub action =>
    simp only [step] at stepped
    by_cases admitted : state.admits action = true
    · rw [if_pos admitted] at stepped
      split at stepped
      · rename_i hub moved
        obtain rfl := Option.some.inj stepped
        exact .hub admitted moved
      · contradiction
    · rw [if_neg admitted] at stepped
      contradiction

/-- What happens on the realtime side may happen. -/
theorem admitted_of_step {state after : Boot} {action : Realtime.Action}
    (stepped : state.step (.hub action) = some after) : state.admits action = true := by
  cases moves_of_step stepped with
  | hub admitted _ => exact admitted

/-- No re-read fails for somebody who has a stream open, and no row of theirs is corrupt. -/
def Heard (state : Boot) : Action → Prop
  | .hub action => state.hub.Heard action
  | _ => True

/-- No change to a recipient with an open stream is committed before the listener listens. -/
def Covered (state : Boot) : Action → Prop
  | .hub (.database action) => state.listens = true ∨
      ∀ store, state.hub.store.step action = some store →
        ∀ signal ∈ store.log.drop state.hub.store.log.length,
          ¬ state.hub.Watched signal.recipientId
  | _ => True

end Boot

/-! ## The listener and the log -/

namespace Realtime

variable {hub after : Realtime} {initial : List Row}

/-- The listener takes the log in its order, from some place on. -/
structure Follows (base : Nat) (hub : Realtime) : Prop where
  /-- It has started there. -/
  begins : base ≤ hub.position
  /-- It is not past the end of the log. -/
  within : hub.position ≤ hub.store.log.length
  /-- Between two dispatches, it has dispatched all it has taken. -/
  idle : hub.dispatching = none →
    hub.dispatched.map Dispatched.signal = (hub.store.log.take hub.position).drop base
  /-- In a dispatch, it has taken the signal of that as well. -/
  busy : ∀ signal program, hub.dispatching = some (signal, program) → ∃ before,
    Settling before signal hub ∧ before.map Dispatched.signal ++ [signal] =
      (hub.store.log.take hub.position).drop base

/-- A listener that starts to listen has dispatched nothing of what comes. -/
theorem follows_of_listen (fresh : hub.dispatched = []) (idle : hub.dispatching = none) :
    Follows hub.store.log.length { hub with position := hub.store.log.length } := by
  refine ⟨Nat.le_refl _, Nat.le_refl _, ?_, ?_⟩
  · intro _
    show hub.dispatched.map Dispatched.signal =
      (hub.store.log.take hub.store.log.length).drop hub.store.log.length
    rw [fresh, List.take_length, List.drop_length]
    rfl
  · intro signal program busy
    have none_ : hub.dispatching = some (signal, program) := busy
    rw [idle] at none_
    contradiction

/-- What the listener has taken does not change when the log grows. -/
theorem Follows.taken_grows {base : Nat} (follows : hub.Follows base)
    (log : hub.store.log <+: after.store.log) (position : after.position = hub.position) :
    (after.store.log.take after.position).drop base =
      (hub.store.log.take hub.position).drop base := by
  obtain ⟨more, same⟩ := log
  rw [position, ← same, List.take_append_of_le_length follows.within]

/-- A step by which the listener neither takes a signal nor goes on with one. -/
theorem Follows.aside {base : Nat} (follows : hub.Follows base)
    (log : hub.store.log <+: after.store.log) (position : after.position = hub.position)
    (dispatched : after.dispatched = hub.dispatched)
    (dispatching : after.dispatching = hub.dispatching)
    (settling : ∀ before signal, Settling before signal hub → Settling before signal after) :
    after.Follows base := by
  have taken := follows.taken_grows log position
  refine ⟨?_, ?_, ?_, ?_⟩
  · rw [position]
    exact follows.begins
  · rw [position]
    exact Nat.le_trans follows.within log.length_le
  · rw [dispatching, dispatched, taken]
    exact follows.idle
  · rw [dispatching, taken]
    intro signal program busy
    obtain ⟨before, settles, order⟩ := follows.busy signal program busy
    exact ⟨before, settling before signal settles, order⟩

/-- A listener whose connection does not drop goes on in the log's order. -/
theorem follows_step {base : Nat} {action : Action} (follows : hub.Follows base)
    (routed : hub.Routed initial) (listens : action ≠ .relisten)
    (stepped : hub.step action = some after) : after.Follows base := by
  have settles : action ≠ .receive → ∀ before signal, Settling before signal hub →
      Settling before signal after := fun busy before signal settling =>
    settling_step settling routed busy stepped
  cases moves_of_step stepped with
  | database moved =>
    exact follows.aside (Store.log_grows moved) rfl rfl rfl (settles (by simp))
  | relisten idle => contradiction
  | @receive signal idle notified =>
    have bound : hub.position < hub.store.log.length := (List.getElem?_eq_some_iff.mp notified).1
    have begins := follows.begins
    refine ⟨Nat.le_succ_of_le begins, bound, ?_, ?_⟩
    · intro none_
      contradiction
    · intro other program found
      obtain ⟨rfl, -⟩ := Prod.mk.inj (Option.some.inj found)
      refine ⟨hub.dispatched, settling_of_receive notified, ?_⟩
      show _ = (hub.store.log.take (hub.position + 1)).drop base
      have taken : base ≤ (hub.store.log.take hub.position).length := by
        rw [List.length_take]
        exact Nat.le_min.mpr ⟨begins, Nat.le_trans begins follows.within⟩
      rw [follows.idle idle, List.take_add_one, notified, List.drop_append_of_le_length taken]
      rfl
  | @run failure signal request next at_ =>
    obtain ⟨before, settling, order⟩ := follows.busy _ _ at_
    obtain ⟨stand, later, -, decides, -⟩ :=
      routed.dispatching.performed routed.sound routed.rooted routed.wired failure at_
    have store := decides.store
    have position := decides.position
    have taken : ((hub.perform signal request (hub.answer failure request)).store.log.take
        (hub.perform signal request (hub.answer failure request)).position).drop base =
          (hub.store.log.take hub.position).drop base := by
      rw [store, position]
    refine ⟨?_, ?_, ?_, ?_⟩
    · show base ≤ (hub.perform signal request (hub.answer failure request)).position
      rw [position]
      exact follows.begins
    · show (hub.perform signal request (hub.answer failure request)).position ≤
        (hub.perform signal request (hub.answer failure request)).store.log.length
      rw [store, position]
      exact follows.within
    · intro none_
      contradiction
    · intro other program found
      obtain ⟨rfl, -⟩ := Prod.mk.inj (Option.some.inj found)
      exact ⟨before, settles (by simp) before _ settling, order.trans taken.symm⟩
  | @finish signal at_ =>
    obtain ⟨before, settling, order⟩ := follows.busy _ _ at_
    obtain ⟨-, stand, ended, -, own, -, settled⟩ := settling _ _ at_
    obtain ⟨entry, recorded, same⟩ := settled ended
    refine ⟨follows.begins, follows.within, ?_, ?_⟩
    · intro _
      show hub.dispatched.map Dispatched.signal = _
      rw [recorded, List.map_append, List.map_singleton, same]
      exact order
    · intro other program found
      contradiction
  | opens accepted => exact follows.aside List.prefix_rfl rfl rfl rfl (settles (by simp))
  | refuses refused => exact follows
  | poll there receiving given =>
    exact follows.aside List.prefix_rfl rfl rfl rfl (settles (by simp))
  | close there receiving =>
    exact follows.aside List.prefix_rfl rfl rfl rfl (settles (by simp))

/-- What has been dispatched is the log from there on, as far as it goes. -/
theorem Follows.order {base : Nat} (follows : hub.Follows base) :
    hub.dispatched.map Dispatched.signal <+: hub.store.log.drop base := by
  have taken : (hub.store.log.take hub.position).drop base <+: hub.store.log.drop base := by
    rw [List.drop_take]
    exact List.take_prefix _ _
  cases busy : hub.dispatching with
  | none =>
    rw [follows.idle busy]
    exact taken
  | some dispatch =>
    obtain ⟨signal, program⟩ := dispatch
    obtain ⟨before, settling, order⟩ := follows.busy signal program busy
    obtain ⟨-, stand, -, -, -, pending, settled⟩ := settling signal program busy
    rw [← order] at taken
    by_cases closed : stand = .settled
    · obtain ⟨entry, recorded, same⟩ := settled closed
      rw [recorded, List.map_append, List.map_singleton, same]
      exact taken
    · rw [pending closed]
      exact (List.prefix_append _ _).trans taken

/-- The rest of the log is still to be dispatched. -/
theorem Follows.split {base : Nat} (follows : hub.Follows base) :
    hub.store.log.drop base = hub.dispatched.map Dispatched.signal ++
      hub.store.log.drop (base + hub.dispatched.length) := by
  obtain ⟨rest, same⟩ := follows.order
  have ahead : hub.store.log.drop (base + hub.dispatched.length) = rest := by
    rw [← List.drop_drop, ← same, ← List.length_map Dispatched.signal, List.drop_left]
  rw [ahead, same]

end Realtime

end SvcNotifier
