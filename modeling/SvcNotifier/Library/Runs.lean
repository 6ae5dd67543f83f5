import Mathlib.Data.List.Basic

/-!
# Runs of a labelled step function

A machine is a partial step function on a state type. A run is a list of labels whose steps
are all enabled, and may be restricted to steps that meet a condition on the state before
them. The induction over a run is stated once here: what every step keeps, every state
reached keeps.
-/

namespace Library

variable {σ τ α β : Type}

/-- A run of `step` in which every step meets `guard` in the state before it. -/
inductive Steps (step : σ → α → Option σ) (guard : σ → α → Prop) : σ → List α → σ → Prop where
  /-- Nothing has happened yet. -/
  | refl (s : σ) : Steps step guard s [] s
  /-- One enabled step, then the rest of the run. -/
  | next {s t u : σ} {a : α} {as : List α} (met : guard s a) (moved : step s a = some t)
      (rest : Steps step guard t as u) : Steps step guard s (a :: as) u

/-- Every step is allowed. -/
def anyStep : σ → α → Prop := fun _ _ => True

/-- `t` is reached from `s` by some run. -/
def Reaches (step : σ → α → Option σ) (guard : σ → α → Prop) (s t : σ) : Prop :=
  ∃ as, Steps step guard s as t

variable {step : σ → α → Option σ} {guard : σ → α → Prop} {s t u : σ}

namespace Steps

/-- Two runs in sequence are one run. -/
theorem append {as bs : List α} (first : Steps step guard s as t)
    (second : Steps step guard t bs u) : Steps step guard s (as ++ bs) u := by
  induction first with
  | refl _ => exact second
  | next met moved _ ih => exact .next met moved (ih second)

/-- A run is extended by one enabled step at its end. -/
theorem snoc {as : List α} {a : α} (run : Steps step guard s as t) (met : guard t a)
    (moved : step t a = some u) : Steps step guard s (as ++ [a]) u :=
  run.append (.next met moved (.refl u))

/-- A run under a condition is a run under every weaker one. -/
theorem weaken {weaker : σ → α → Prop} {as : List α} (run : Steps step guard s as t)
    (implies : ∀ s a, guard s a → weaker s a) : Steps step weaker s as t := by
  induction run with
  | refl _ => exact .refl _
  | next met moved _ ih => exact .next (implies _ _ met) moved ih

/-- What every step keeps, a whole run keeps. -/
theorem invariant {holds : σ → Prop} {as : List α} (run : Steps step guard s as t)
    (keeps : ∀ s a t, holds s → guard s a → step s a = some t → holds t) (start : holds s) :
    holds t := by
  induction run with
  | refl _ => exact start
  | next met moved _ ih => exact ih (keeps _ _ _ start met moved)

/-- What every step keeps of the state and of the labels so far, a whole run keeps. -/
theorem traced {holds : List α → σ → Prop} {as : List α} (run : Steps step guard s as t)
    (keeps : ∀ as s a t, holds as s → guard s a → step s a = some t → holds (as ++ [a]) t)
    (start : holds [] s) : holds as t := by
  suffices goesOn : ∀ before, holds before s → holds (before ++ as) t from goesOn [] start
  clear start
  induction run with
  | refl _ =>
    intro before held
    rw [List.append_nil]
    exact held
  | @next s t u a as met moved _ ih =>
    intro before held
    have later := ih (before ++ [a]) (keeps before s a t held met moved)
    rw [List.append_assoc] at later
    exact later

/-- A relation that every step extends relates the two ends of a run, under an invariant. -/
theorem relates {holds : σ → Prop} {related : σ → σ → Prop} {as : List α}
    (run : Steps step guard s as t)
    (keeps : ∀ s a t, holds s → guard s a → step s a = some t → holds t)
    (refl : ∀ s, holds s → related s s)
    (extends_ : ∀ s a t u, holds s → step s a = some t → related t u → related s u)
    (start : holds s) : related s t := by
  induction run with
  | refl s => exact refl s start
  | next met moved _ ih =>
    exact extends_ _ _ _ _ start moved (ih (keeps _ _ _ start met moved))

/-- A step-by-step projection carries a run of one machine to a run of another, where each
step becomes an optional step of the other machine. -/
theorem project {other : τ → β → Option τ} {view : σ → τ} {as : List α}
    (run : Steps step guard s as t)
    (moves : ∀ s a t, step s a = some t → view t = view s ∨ ∃ b, other (view s) b = some (view t)) :
    Reaches other anyStep (view s) (view t) := by
  induction run with
  | refl s => exact ⟨[], .refl _⟩
  | next _ moved _ ih =>
    obtain ⟨bs, rest⟩ := ih
    rcases moves _ _ _ moved with same | ⟨b, step⟩
    · rw [← same]
      exact ⟨bs, rest⟩
    · exact ⟨b :: bs, .next trivial step rest⟩

/-- Forward simulation: where every step of one machine is matched by a run of the other that
shows the same, every run is. -/
theorem simulated {γ : Type} {other : τ → β → Option τ} {related : σ → τ → Prop}
    {shows : α → List γ} {shown : β → List γ} {as : List α} (run : Steps step guard s as t)
    (simulates : ∀ s a t u, related s u → guard s a → step s a = some t →
      ∃ bs v, Steps other anyStep u bs v ∧ bs.flatMap shown = shows a ∧ related t v)
    {u : τ} (start : related s u) :
    ∃ bs v, Steps other anyStep u bs v ∧ bs.flatMap shown = as.flatMap shows ∧ related t v := by
  induction run generalizing u with
  | refl s => exact ⟨[], u, .refl u, rfl, start⟩
  | next met moved _ ih =>
    obtain ⟨first, middle, begins, sameFirst, between⟩ := simulates _ _ _ _ start met moved
    obtain ⟨rest, last, goesOn, sameRest, ends⟩ := ih between
    refine ⟨first ++ rest, last, begins.append goesOn, ?_, ends⟩
    rw [List.flatMap_append, List.flatMap_cons, sameFirst, sameRest]

end Steps

namespace Reaches

/-- Every state reaches itself. -/
theorem refl (s : σ) : Reaches step guard s s := ⟨[], .refl s⟩

/-- Runs compose. -/
theorem trans (first : Reaches step guard s t) (second : Reaches step guard t u) :
    Reaches step guard s u := by
  obtain ⟨as, first⟩ := first
  obtain ⟨bs, second⟩ := second
  exact ⟨as ++ bs, first.append second⟩

/-- One more enabled step. -/
theorem snoc {a : α} (run : Reaches step guard s t) (met : guard t a) (moved : step t a = some u) :
    Reaches step guard s u := by
  obtain ⟨as, run⟩ := run
  exact ⟨as ++ [a], run.snoc met moved⟩

/-- The invariant rule for reachable states. -/
theorem invariant {holds : σ → Prop} (run : Reaches step guard s t)
    (keeps : ∀ s a t, holds s → guard s a → step s a = some t → holds t) (start : holds s) :
    holds t := by
  obtain ⟨as, run⟩ := run
  exact run.invariant keeps start

/-- Dropping the condition on a run. -/
theorem unguarded (run : Reaches step guard s t) : Reaches step anyStep s t := by
  obtain ⟨as, run⟩ := run
  exact ⟨as, run.weaken fun _ _ _ => trivial⟩

end Reaches

/-- The states a list of labels goes through, the first and the last included. -/
def visited (step : σ → α → Option σ) : σ → List α → List σ
  | s, [] => [s]
  | s, a :: as => match step s a with
    | some t => s :: visited step t as
    | none => [s]

/-- Run a list of labels; a label that is not enabled stops the run. -/
def play (step : σ → α → Option σ) : σ → List α → Option σ
  | s, [] => some s
  | s, a :: as => match step s a with
    | some t => play step t as
    | none => none

/-- A list of labels that plays to its end is a run. -/
theorem steps_of_play {as : List α} (played : play step s as = some t) :
    Steps step anyStep s as t := by
  induction as generalizing s with
  | nil =>
    obtain rfl := Option.some.inj played
    exact .refl s
  | cons a as ih =>
    simp only [play] at played
    split at played
    · rename_i middle moved
      exact .next trivial moved (ih played)
    · contradiction

/-- A list of labels that plays to its end with a check before each step is a run under what
the check ensures. -/
theorem steps_of_checked_play {check : σ → α → Bool} {as : List α}
    (played : play (fun s a => if check s a then step s a else none) s as = some t)
    (ensures : ∀ s a, check s a = true → guard s a) : Steps step guard s as t := by
  induction as generalizing s with
  | nil =>
    obtain rfl := Option.some.inj played
    exact .refl s
  | cons a as ih =>
    simp only [play] at played
    split at played
    · rename_i middle moved
      by_cases passed : check s a = true
      · rw [if_pos passed] at moved
        exact .next (ensures s a passed) moved (ih played)
      · rw [if_neg passed] at moved
        contradiction
    · contradiction

/-- A list of labels that plays to its end reaches its last state. -/
theorem reaches_of_play {as : List α} (played : play step s as = some t) :
    Reaches step anyStep s t := ⟨as, steps_of_play played⟩

end Library
