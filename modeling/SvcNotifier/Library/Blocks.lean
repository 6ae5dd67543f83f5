import Mathlib.Data.List.Basic

/-!
# Blocks that a blank line ends

A text of blocks, with two line breaks after each, arrives in pieces that are cut anywhere. A
reader that takes from the front of its buffer what has two line breaks after it gets the blocks
as they were written, and no part of one before the rest has arrived.
-/

namespace Library

namespace Blocks

variable {α : Type} [DecidableEq α]

/-- What stands before the first two stops in a row, and what follows them. -/
def take (stop : α) : List α → Option (List α × List α)
  | [] => none
  | [_] => none
  | first :: second :: rest =>
    if first = stop ∧ second = stop then some ([], rest)
    else (take stop (second :: rest)).map fun found => (first :: found.1, found.2)

/-- The first two stops in a row after the block are those that end it. -/
def Solid (stop : α) (block : List α) : Prop := take stop (block ++ [stop]) = none

/-- The text of some blocks. -/
def write (stop : α) (blocks : List (List α)) : List α :=
  blocks.flatMap fun block => block ++ [stop, stop]

variable {stop : α} {text block rest : List α}

/-- What arrives later does not change the block that is taken. -/
theorem take_append (found : take stop text = some (block, rest)) (more : List α) :
    take stop (text ++ more) = some (block, rest ++ more) := by
  fun_induction take stop text generalizing block with
  | case1 => contradiction
  | case2 => contradiction
  | case3 first second following stops =>
    obtain ⟨rfl, rfl⟩ := Prod.mk.inj (Option.some.inj found)
    simp only [List.cons_append, take, if_pos stops]
  | case4 first second following going ih =>
    obtain ⟨⟨before, after⟩, taken, same⟩ := Option.map_eq_some_iff.mp found
    obtain ⟨rfl, rfl⟩ := Prod.mk.inj same
    have later := ih taken
    rw [List.cons_append] at later
    simp only [List.cons_append, take, if_neg going, later, Option.map_some]

/-- What is taken stood before two stops. -/
theorem take_eq (found : take stop text = some (block, rest)) :
    text = block ++ stop :: stop :: rest := by
  fun_induction take stop text generalizing block with
  | case1 => contradiction
  | case2 => contradiction
  | case3 first second following stops =>
    obtain ⟨rfl, rfl⟩ := Prod.mk.inj (Option.some.inj found)
    rw [stops.1, stops.2, List.nil_append]
  | case4 first second following going ih =>
    obtain ⟨⟨before, after⟩, taken, same⟩ := Option.map_eq_some_iff.mp found
    obtain ⟨rfl, rfl⟩ := Prod.mk.inj same
    rw [ih taken, List.cons_append]

/-- There is nothing to take from stop-free text. -/
theorem take_free {line : List α} (free : stop ∉ line) (following : List α) :
    take stop (line ++ following) =
      (take stop following).map fun found => (line ++ found.1, found.2) := by
  induction line with
  | nil =>
    simp only [List.nil_append]
    exact Option.map_id'.symm
  | cons first line ih =>
    have other : stop ≠ first := List.ne_of_not_mem_cons free
    have inner := ih (List.not_mem_of_not_mem_cons free)
    rw [List.cons_append]
    cases going : line ++ following with
    | nil =>
      obtain ⟨-, rfl⟩ := List.append_eq_nil_iff.mp going
      rfl
    | cons second tail =>
      rw [going] at inner
      have apart : ¬(first = stop ∧ second = stop) := fun stops => other stops.1.symm
      rw [take, if_neg apart, inner, Option.map_map]
      rfl

/-- A line is solid. -/
theorem solid_of_free {line : List α} (free : stop ∉ line) : Solid stop line := by
  rw [Solid, take_free free]
  rfl

/-- A line, one stop and what is solid and does not start with a stop are solid. -/
theorem Solid.append {line tail : List α} {first : α} (solid : Solid stop (first :: tail))
    (free : stop ∉ line) (other : first ≠ stop) : Solid stop (line ++ stop :: first :: tail) := by
  have apart : ¬(stop = stop ∧ first = stop) := fun stops => other stops.2
  rw [Solid, List.append_assoc, take_free free, List.cons_append, List.cons_append, take,
    if_neg apart, ← List.cons_append, solid]
  rfl

/-- A solid block is taken whole. -/
theorem Solid.take (solid : Solid stop block) (rest : List α) :
    take stop (block ++ stop :: stop :: rest) = some (block, rest) := by
  induction block with
  | nil =>
    have stops : stop = stop ∧ stop = stop := ⟨rfl, rfl⟩
    rw [List.nil_append, Blocks.take, if_pos stops]
  | cons first tail ih =>
    cases tail with
    | nil =>
      have apart : ¬(first = stop ∧ stop = stop) := by
        intro stops
        rw [Solid, List.singleton_append, Blocks.take, if_pos stops] at solid
        contradiction
      have inner := ih rfl
      rw [List.nil_append] at inner
      rw [List.singleton_append, Blocks.take, if_neg apart, inner]
      rfl
    | cons second tail =>
      have apart : ¬(first = stop ∧ second = stop) := by
        intro stops
        rw [Solid, List.cons_append, List.cons_append, Blocks.take, if_pos stops] at solid
        contradiction
      have inner := ih (by
        rw [Solid, List.cons_append, List.cons_append, Blocks.take, if_neg apart,
          Option.map_eq_none_iff] at solid
        exact solid)
      rw [List.cons_append] at inner
      rw [List.cons_append, List.cons_append, Blocks.take, if_neg apart, inner]
      rfl

/-! ## What has arrived of some blocks -/

variable {blocks : List (List α)}

omit [DecidableEq α] in
/-- Blocks written after a block. -/
theorem write_cons (block : List α) (blocks : List (List α)) :
    write stop (block :: blocks) = block ++ stop :: stop :: write stop blocks := by
  simp [write]

omit [DecidableEq α] in
/-- Blocks written after others. -/
theorem write_append (blocks more : List (List α)) :
    write stop (blocks ++ more) = write stop blocks ++ write stop more :=
  List.flatMap_append

/-- What is taken of the text so far is the first block, and the others are still to come. -/
theorem taken_of_prefix (solid : ∀ block ∈ blocks, Solid stop block)
    (arrived : text <+: write stop blocks) (found : take stop text = some (block, rest)) :
    ∃ later, blocks = block :: later ∧ rest <+: write stop later := by
  obtain ⟨more, whole⟩ := arrived
  have taken := take_append found more
  cases blocks with
  | nil =>
    obtain ⟨rfl, -⟩ := List.append_eq_nil_iff.mp whole
    contradiction
  | cons first later =>
    rw [whole, write_cons, (solid first List.mem_cons_self).take] at taken
    obtain ⟨rfl, same⟩ := Prod.mk.inj (Option.some.inj taken)
    exact ⟨later, rfl, more, same.symm⟩

/-- If nothing can be taken, the first block has not arrived whole. -/
theorem waits_of_prefix {later : List (List α)}
    (solid : Solid stop block) (arrived : text <+: write stop (block :: later))
    (none_ : take stop text = none) : text.length < block.length + 2 := by
  by_contra long
  rw [write_cons, List.append_cons, List.append_cons] at arrived
  have whole : block ++ [stop] ++ [stop] <+: text :=
    List.prefix_of_prefix_length_le (List.prefix_append ..) arrived (by simp; omega)
  obtain ⟨rest, same⟩ := whole
  rw [← same, List.append_assoc, List.append_assoc, List.singleton_append, List.singleton_append,
    solid.take] at none_
  contradiction

end Blocks

end Library
