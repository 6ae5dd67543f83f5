import Mathlib.Data.List.Basic

/-!
# A log under retention

Rows are added to a log unless one of their key is there, and passes take away what they find
expired. What the log holds is then what was added, less what some pass found expired, and two
rows of one key are told apart by a pass between them.
-/

namespace Library.Retention

/-- A log: the rows it holds, and all the rows added to it and the passes over it, oldest first. -/
structure Log (Row Pass : Type) where
  /-- The rows it holds. -/
  held : List Row
  /-- All the rows ever added. -/
  added : List Row
  /-- The passes that have been made. -/
  passes : List Pass

variable {Row Pass Key : Type}

namespace Log

/-- Add a row, unless one of its key is held. -/
def add [DecidableEq Key] (key : Row → Key) (log : Log Row Pass) (row : Row) : Log Row Pass :=
  if log.held.any fun other => key other == key row then log
  else { log with held := log.held ++ [row], added := log.added ++ [row] }

/-- Take away what a pass finds expired. -/
def sweep (expired : Pass → Row → Bool) (log : Log Row Pass) (pass : Pass) : Log Row Pass :=
  { log with
    held := log.held.filter fun row => !expired pass row
    passes := log.passes ++ [pass] }

/-- What holds of a log whose rows are added in `order` to the passes before them. -/
structure Kept (key : Row → Key) (expired : Pass → Row → Bool) (order : Pass → Row → Prop)
    (log : Log Row Pass) : Prop where
  /-- It holds the rows that no pass has found expired. -/
  held : log.held = log.added.filter fun row => !log.passes.any fun pass => expired pass row
  /-- A key comes again only after a pass has removed its row. -/
  apart : log.added.Pairwise fun first second => key first = key second →
    ∃ pass ∈ log.passes, expired pass first = true ∧ order pass second

variable {key : Row → Key} {expired : Pass → Row → Bool} {order : Pass → Row → Prop}
  {log : Log Row Pass}

/-- An empty log. -/
theorem empty_kept : Kept key expired order { held := [], added := [], passes := [] } :=
  ⟨rfl, List.Pairwise.nil⟩

/-- A row that no earlier pass finds expired is added. -/
theorem Kept.add [DecidableEq Key] (kept : log.Kept key expired order) {row : Row}
    (current : ∀ pass ∈ log.passes, expired pass row = false ∧ order pass row) :
    (log.add key row).Kept key expired order := by
  unfold Log.add
  by_cases known : log.held.any fun other => key other == key row
  · rw [if_pos known]
    exact kept
  · rw [if_neg known]
    refine ⟨?_, ?_⟩
    · have stays : log.passes.any (fun pass => expired pass row) = false := by
        rw [List.any_eq_false]
        intro pass member
        rw [(current pass member).1]
        exact Bool.false_ne_true
      dsimp only
      rw [List.filter_append, ← kept.held, List.filter_singleton, stays]
      rfl
    · refine List.pairwise_append.mpr ⟨kept.apart, List.pairwise_singleton _ _, ?_⟩
      intro earlier wasAdded later isRow same
      obtain rfl := List.mem_singleton.mp isRow
      -- A row of the key is not held, so some pass has taken it away.
      have gone : earlier ∉ log.held := by
        intro stillHeld
        exact known (List.any_eq_true.mpr ⟨earlier, stillHeld, beq_iff_eq.mpr same⟩)
      rw [kept.held, List.mem_filter] at gone
      have swept : log.passes.any (fun pass => expired pass earlier) = true := by
        by_contra unswept
        exact gone ⟨wasAdded, by rw [Bool.not_eq_true] at unswept; rw [unswept]; rfl⟩
      obtain ⟨pass, member, taken⟩ := List.any_eq_true.mp swept
      exact ⟨pass, member, taken, (current pass member).2⟩

/-- A pass goes over the log. -/
theorem Kept.sweep (kept : log.Kept key expired order) (pass : Pass) :
    (log.sweep expired pass).Kept key expired order := by
  refine ⟨?_, kept.apart.imp ?_⟩
  · show log.held.filter (fun row => !expired pass row) =
      log.added.filter fun row => !(log.passes ++ [pass]).any fun pass => expired pass row
    rw [kept.held, List.filter_filter]
    refine List.filter_congr ?_
    intro row _
    rw [List.any_append, List.any_cons, List.any_nil, Bool.or_false, Bool.not_or, Bool.and_comm]
  · intro first second separated same
    obtain ⟨earlier, member, taken, later⟩ := separated same
    exact ⟨earlier, List.mem_append_left _ member, taken, later⟩

end Log

end Library.Retention
