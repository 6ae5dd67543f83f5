import SvcNotifier.Library.Runs
import Mathlib.Tactic.Common

/-!
# Endless runs and weak fairness

A run that never ends takes a step at every moment. It is fair to a party when the party, once
enabled for good, takes a step of its own. Two rules are derived from it: what a party's step
establishes and every other step waits for comes about, and no party that is enabled for good
climbs a bounded measure. Where a run shows every step of a part of the machine, the part runs
endlessly as well, and as fairly.
-/

namespace Library

variable {σ α : Type} {step : σ → α → Option σ} {guard : σ → α → Prop} {s : σ}

/-- An endless run of `step` in which every step meets `guard`. -/
structure Endless (step : σ → α → Option σ) (guard : σ → α → Prop) (s : σ) where
  /-- The states, from the first on. -/
  state : Nat → σ
  /-- The labels of its steps. -/
  label : Nat → α
  /-- It starts there. -/
  starts : state 0 = s
  /-- Every step meets the condition. -/
  met : ∀ n, guard (state n) (label n)
  /-- Every step leads to the next state. -/
  moved : ∀ n, step (state n) (label n) = some (state (n + 1))

namespace Endless

/-- Some step of the party is enabled. -/
def Enabled (step : σ → α → Option σ) (mine : α → Prop) (s : σ) : Prop :=
  ∃ a, mine a ∧ (step s a).isSome = true

/-- Weak fairness: a party that is enabled from some moment on takes a step after it. -/
def Fair (run : Endless step guard s) (mine : α → Prop) : Prop :=
  ∀ n, (∀ m, n ≤ m → Enabled step mine (run.state m)) → ∃ m, n ≤ m ∧ mine (run.label m)

variable (run : Endless step guard s)

/-- A later state of an endless run is reached from an earlier one. -/
theorem reaches_on (n : Nat) {m : Nat} (later : n ≤ m) :
    Reaches step guard (run.state n) (run.state m) := by
  induction later with
  | refl => exact .refl _
  | @step m _ ih => exact ih.snoc (run.met m) (run.moved m)

/-- Every state of an endless run is reached. -/
theorem reaches (n : Nat) : Reaches step guard s (run.state n) := by
  have reached := run.reaches_on 0 (Nat.zero_le n)
  rwa [run.starts] at reached

/-- What holds at a moment and every later step keeps holds ever after. -/
theorem stays (holds : σ → Prop) {n : Nat} (keeps : ∀ m, n ≤ m → holds (run.state m) →
    holds (run.state (m + 1))) (start : holds (run.state n)) :
    ∀ m, n ≤ m → holds (run.state m) := by
  intro m later
  induction later with
  | refl => exact start
  | step past ih => exact keeps _ past ih

/-- What the step of a party establishes comes about, where every other step leaves the party
enabled. -/
theorem comes_about (waits reached : σ → Prop) {mine : α → Prop} (fair : run.Fair mine) {n : Nat}
    (start : waits (run.state n)) (enabled : ∀ m, waits (run.state m) →
      Enabled step mine (run.state m))
    (establishes : ∀ m, waits (run.state m) → mine (run.label m) → reached (run.state (m + 1)))
    (others : ∀ m, waits (run.state m) → ¬ mine (run.label m) → waits (run.state (m + 1))) :
    ∃ m, n ≤ m ∧ reached (run.state m) := by
  by_cases some_ : ∃ m, n ≤ m ∧ reached (run.state m)
  · exact some_
  · exfalso
    have never : ∀ m, n ≤ m → ¬ reached (run.state m) := by
      intro m later now
      exact some_ ⟨m, later, now⟩
    have waiting : ∀ m, n ≤ m → waits (run.state m) := by
      apply run.stays waits ?_ start
      intro m later ih
      apply others m ih
      intro own
      exact never (m + 1) (Nat.le_succ_of_le later) (establishes m ih own)
    obtain ⟨m, later, own⟩ := fair n fun m later => enabled m (waiting m later)
    exact never (m + 1) (Nat.le_succ_of_le later) (establishes m (waiting m later) own)

/-- A party that is enabled for good does not climb a bounded measure. -/
theorem not_bounded (measure : σ → Nat) {mine : α → Prop} (fair : run.Fair mine) {bound n : Nat}
    (enabled : ∀ m, n ≤ m → Enabled step mine (run.state m))
    (climbs : ∀ m, n ≤ m → mine (run.label m) →
      measure (run.state m) < measure (run.state (m + 1)))
    (never_falls : ∀ m, n ≤ m → measure (run.state m) ≤ measure (run.state (m + 1))) :
    ¬ ∀ m, n ≤ m → measure (run.state m) ≤ bound := by
  intro bounded
  have rises : ∀ height, ∃ m, n ≤ m ∧ height ≤ measure (run.state m) := by
    intro height
    induction height with
    | zero => exact ⟨n, Nat.le_refl n, Nat.zero_le _⟩
    | succ height ih =>
      obtain ⟨first, later, high⟩ := ih
      obtain ⟨next, after, own⟩ := fair first fun m past =>
        enabled m (Nat.le_trans later past)
      have kept : height ≤ measure (run.state next) := by
        apply run.stays (fun s => height ≤ measure s) ?_ high next after
        intro m past at_
        exact Nat.le_trans at_ (never_falls m (Nat.le_trans later past))
      have up := climbs next (Nat.le_trans later after) own
      refine ⟨next + 1, by omega, ?_⟩
      omega
  obtain ⟨m, later, above⟩ := rises (bound + 1)
  have below := bounded m later
  omega

end Endless

/-! ## Through a view -/

section

variable {τ β : Type} {other : τ → β → Option τ} {guard' : τ → β → Prop} {t : σ}

/-- Where every step of an endless run from some moment on is a step of another machine as well,
which has a step that changes nothing for those it does not see, that machine runs endlessly. -/
theorem Endless.through (run : Endless step guard s) (view : σ → τ) (shows : α → β → Prop)
    (moment : Nat) (follows : ∀ n, moment ≤ n → ∃ b, shows (run.label n) b ∧
      guard' (view (run.state n)) b ∧ other (view (run.state n)) b =
        some (view (run.state (n + 1)))) :
    ∃ image : Endless other guard' (view (run.state moment)), ∀ n,
      image.state n = view (run.state (moment + n)) ∧
        shows (run.label (moment + n)) (image.label n) := by
  choose label shown met moved using fun n => follows (moment + n) (Nat.le_add_right moment n)
  exact ⟨⟨fun n => view (run.state (moment + n)), label, rfl, met, moved⟩,
    fun n => ⟨rfl, shown n⟩⟩

/-- The other machine is as fair to a party as the run is. -/
theorem Endless.fair_through {run : Endless step guard s} {view : σ → τ} {shows : α → β → Prop}
    {moment : Nat} {image : Endless other guard' (view (run.state moment))}
    (shown : ∀ n, image.state n = view (run.state (moment + n)) ∧
      shows (run.label (moment + n)) (image.label n))
    {mine : α → Prop} {party : β → Prop} (fair : run.Fair mine)
    (enabled : ∀ n, Enabled other party (view (run.state n)) → Enabled step mine (run.state n))
    (own : ∀ a b, shows a b → mine a → party b) : image.Fair party := by
  intro n always
  obtain ⟨m, later, label⟩ := fair (moment + n) fun m later => by
    obtain ⟨k, rfl⟩ := Nat.exists_eq_add_of_le (Nat.le_of_add_right_le later)
    have at_ := always k (by omega)
    rw [(shown k).1] at at_
    exact enabled _ at_
  obtain ⟨k, rfl⟩ := Nat.exists_eq_add_of_le (Nat.le_of_add_right_le later)
  exact ⟨k, by omega, own _ _ (shown k).2 label⟩

/-- A run, and then an endless one. -/
theorem Steps.prolonged {as : List α} (run : Steps step guard s as t)
    (rest : Endless step guard t) : ∃ whole : Endless step guard s, ∀ n,
      whole.state (n + as.length) = rest.state n ∧ whole.label (n + as.length) = rest.label n := by
  induction run with
  | refl s => exact ⟨rest, fun n => ⟨rfl, rfl⟩⟩
  | @next s middle last a as met moved run ih =>
    obtain ⟨later, same⟩ := ih rest
    refine ⟨⟨fun n => n.casesOn s later.state, fun n => n.casesOn a later.label, rfl, ?_, ?_⟩,
      same⟩
    · intro n
      cases n with
      | zero => exact met
      | succ n => exact later.met n
    · intro n
      cases n with
      | zero =>
        show step s a = some (later.state 0)
        rw [later.starts]
        exact moved
      | succ n => exact later.moved n

/-- What an endless run does after a finite one, it does as fairly. -/
theorem Endless.fair_prolonged {whole : Endless step guard s} {rest : Endless step guard t}
    {length : Nat} (same : ∀ n, whole.state (n + length) = rest.state n ∧
      whole.label (n + length) = rest.label n) {mine : α → Prop} (fair : rest.Fair mine) :
    whole.Fair mine := by
  intro n enabled
  obtain ⟨m, later, label⟩ := fair n fun m later => by
    rw [← (same m).1]
    exact enabled (m + length) (by omega)
  exact ⟨m + length, by omega, (same m).2 ▸ label⟩

end

/-! ## Coming to rest -/

/-- The state after the first labels of a list. -/
def stateAt (step : σ → α → Option σ) : σ → List α → Nat → σ
  | s, [], _ => s
  | s, _ :: _, 0 => s
  | s, a :: as, n + 1 => match step s a with
    | some t => stateAt step t as n
    | none => s

namespace Steps

variable {as : List α} {t : σ}

/-- After all labels of a run its last state is reached. -/
theorem stateAt_of_length_le (run : Steps step guard s as t) {n : Nat} (done : as.length ≤ n) :
    stateAt step s as n = t := by
  induction run generalizing n with
  | refl s => rfl
  | next met moved rest ih =>
    cases n with
    | zero => contradiction
    | succ n =>
      rw [stateAt, moved]
      exact ih (Nat.le_of_succ_le_succ done)

/-- The labels of a run, and then one that leaves its last state alone. -/
theorem rests (run : Steps step guard s as t) {loop : α} (met : guard t loop)
    (idle : step t loop = some t) (n : Nat) :
    guard (stateAt step s as n) (as.getD n loop) ∧
      step (stateAt step s as n) (as.getD n loop) = some (stateAt step s as (n + 1)) := by
  induction run generalizing n with
  | refl s => exact ⟨met, idle⟩
  | @next s middle last a as first moved rest ih =>
    cases n with
    | zero =>
      have next : stateAt step s (a :: as) 1 = middle := by
        rw [stateAt, moved]
        cases as with
        | nil => rfl
        | cons b bs => rfl
      rw [next]
      exact ⟨first, moved⟩
    | succ n =>
      have here : stateAt step s (a :: as) (n + 1) = stateAt step middle as n := by
        rw [stateAt, moved]
      have next : stateAt step s (a :: as) (n + 1 + 1) = stateAt step middle as (n + 1) := by
        rw [stateAt, moved]
      rw [here, next]
      exact ih met idle n

/-- The endless run that does nothing more after a run. -/
def resting (run : Steps step guard s as t) {loop : α} (met : guard t loop)
    (idle : step t loop = some t) : Endless step guard s where
  state := stateAt step s as
  label := fun n => as.getD n loop
  starts := by
    cases as with
    | nil => rfl
    | cons a as => rfl
  met := fun n => (run.rests met idle n).1
  moved := fun n => (run.rests met idle n).2

/-- A run that comes to rest is fair to a party that has nothing to do at its end. -/
theorem resting_fair (run : Steps step guard s as t) {loop : α} (met : guard t loop)
    (idle : step t loop = some t) {mine : α → Prop} (nothing : ∀ a, mine a → step t a = none) :
    (run.resting met idle).Fair mine := by
  intro n enabled
  obtain ⟨a, own, on⟩ := enabled (n + as.length) (Nat.le_add_right n as.length)
  have last : (run.resting met idle).state (n + as.length) = t :=
    run.stateAt_of_length_le (Nat.le_add_left as.length n)
  rw [last, nothing a own] at on
  contradiction

end Steps

end Library
