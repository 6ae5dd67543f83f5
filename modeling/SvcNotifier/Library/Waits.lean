import Mathlib.Logic.Relation
import Mathlib.Data.Set.Finite.Basic
import Mathlib.Order.WellFounded

/-!
# Waiting

Who waits for whom is a relation. A party is deadlocked when it waits for itself at some remove.
Where nobody is, and only finitely many are waited for, every chain of waits ends with somebody
who waits for nobody. Where a wait for somebody light is a wait for whatever that one waits for,
it takes two heavy ones to make a deadlock.
-/

namespace Library

open Relation

variable {α : Type} {waits : α → α → Prop} {a b : α}

/-- Somebody waits for themselves, at some remove. -/
def Deadlocked (waits : α → α → Prop) (a : α) : Prop := TransGen waits a a

/-- Each waits for the other, at some remove. -/
def Together (waits : α → α → Prop) (a b : α) : Prop := TransGen waits a b ∧ TransGen waits b a

/-- Those deadlocked together are each deadlocked. -/
theorem Together.deadlocked (together : Together waits a b) : Deadlocked waits b :=
  together.2.trans together.1

/-- A deadlocked party waits for somebody. -/
theorem Deadlocked.waits_for (deadlocked : Deadlocked waits a) : ∃ b, waits a b := by
  obtain ⟨b, first, -⟩ := TransGen.head'_iff.mp deadlocked
  exact ⟨b, first⟩

/-- A deadlocked party is waited for, by somebody deadlocked with it. -/
theorem Deadlocked.waited_for (deadlocked : Deadlocked waits a) :
    ∃ b, Together waits a b ∧ waits b a := by
  obtain ⟨b, before, last⟩ := TransGen.tail'_iff.mp deadlocked
  refine ⟨b, ⟨?_, .single last⟩, last⟩
  rcases reflTransGen_iff_eq_or_transGen.mp before with same | chain
  · rw [same]
    exact same ▸ deadlocked
  · exact chain

/-- What waiting hands on is so of everybody that is waited for. -/
theorem spreads (holds : α → Prop) (hands : ∀ a b, waits a b → holds a → holds b)
    (chain : TransGen waits a b) (start : holds a) : holds b := by
  induction chain with
  | single first => exact hands _ _ first start
  | tail _ last ih => exact hands _ _ last ih

/-- Those deadlocked together with one are deadlocked with each other. -/
theorem Together.trans {c : α} (first : Together waits a b) (second : Together waits b c) :
    Together waits a c := ⟨first.1.trans second.1, second.2.trans first.2⟩

section

variable (heavy : α → Prop)
  (passes : ∀ a b c, waits a b → waits b c → ¬ heavy b → waits a c)

include passes

/-- A chain of waits is one wait, or it comes to somebody heavy at once. -/
theorem wait_or_heavy (chain : TransGen waits a b) :
    waits a b ∨ ∃ c, heavy c ∧ waits a c ∧ TransGen waits c b := by
  induction chain using TransGen.head_induction_on with
  | single last => exact Or.inl last
  | @head a middle first rest ih =>
    by_cases weight : heavy middle
    · exact Or.inr ⟨middle, weight, first, rest⟩
    · rcases ih with last | ⟨c, weight', second, rest'⟩
      · exact Or.inl (passes a middle b first last weight)
      · exact Or.inr ⟨c, weight', passes a middle c first second weight, rest'⟩

/-- On a cycle somebody heavy is waited for. -/
theorem Deadlocked.heavy_next (own : ∀ a, ¬ waits a a) (deadlocked : Deadlocked waits a) :
    ∃ c, heavy c ∧ waits a c ∧ Together waits a c := by
  rcases wait_or_heavy heavy passes deadlocked with alone | ⟨c, weight, first, rest⟩
  · exact absurd alone (own a)
  · exact ⟨c, weight, first, .single first, rest⟩

/-- A deadlock has two heavy parties. -/
theorem Deadlocked.two_heavy (own : ∀ a, ¬ waits a a) (deadlocked : Deadlocked waits a) :
    ∃ one other, one ≠ other ∧ heavy one ∧ heavy other ∧ Together waits a one ∧
      Together waits a other := by
  obtain ⟨one, weight, -, together⟩ := deadlocked.heavy_next heavy passes own
  obtain ⟨other, weight', first, together'⟩ := together.deadlocked.heavy_next heavy passes own
  refine ⟨one, other, ?_, weight, weight', together, together.trans together'⟩
  rintro rfl
  exact own one first

end

end Library
