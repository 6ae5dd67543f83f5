import Mathlib.Data.List.Pairwise
import Mathlib.Order.Lattice

/-!
# A page of a list in descending order

A list is walked by the key of the last item given: a page is the first items below it. What
is not on a page lies below the page's last item, which is the lowest of it, and there is a
last item and a next page where anything is left.
-/

namespace Library

variable {α κ : Type} [LinearOrder κ] {key : α → κ} {items : List α} {limit : Nat}

/-- An item of a list in descending order is among the first ones, or there is a last of them
and the item lies below it. -/
theorem mem_take_or_below (descending : items.Pairwise fun left right => key right < key left)
    (positive : 0 < limit) {item : α} (member : item ∈ items) :
    item ∈ items.take limit ∨ limit < items.length ∧
      ∃ last, (items.take limit).getLast? = some last ∧ key item < key last := by
  by_cases given : item ∈ items.take limit
  · exact Or.inl given
  · right
    have later : item ∈ items.drop limit := by
      rw [← List.take_append_drop limit items, List.mem_append] at member
      exact member.resolve_left given
    have long : limit < items.length := by
      by_contra short
      rw [List.drop_eq_nil_of_le (by omega)] at later
      cases later
    refine ⟨long, ?_⟩
    have nonempty : items.take limit ≠ [] := by
      rw [← List.length_pos_iff, List.length_take]
      omega
    refine ⟨(items.take limit).getLast nonempty, List.getLast?_eq_some_getLast nonempty, ?_⟩
    rw [← List.take_append_drop limit items, List.pairwise_append] at descending
    exact descending.2.2 _ (List.getLast_mem nonempty) _ later

/-- The last item of a list in descending order is the lowest. -/
theorem last_lowest (descending : items.Pairwise fun left right => key right < key left)
    {last item : α} (isLast : items.getLast? = some last) (member : item ∈ items) :
    key last ≤ key item := by
  obtain ⟨before, rfl⟩ := List.getLast?_eq_some_iff.mp isLast
  rw [List.pairwise_append] at descending
  rcases List.mem_append.mp member with earlier | same
  · exact le_of_lt (descending.2.2 item earlier last (List.mem_singleton_self last))
  · rw [List.mem_singleton] at same
    rw [same]

/-- There is a next page exactly where an item lies below everything on this one. -/
theorem next_page_iff (descending : items.Pairwise fun left right => key right < key left) :
    limit < items.length ↔ ∃ item ∈ items, ∀ given ∈ items.take limit, key item < key given := by
  constructor
  · intro long
    rw [← List.take_append_drop limit items, List.pairwise_append] at descending
    have later : items[limit] ∈ items.drop limit :=
      List.mem_drop_iff_getElem.mpr ⟨0, by omega, rfl⟩
    exact ⟨items[limit], List.getElem_mem long,
      fun given member => descending.2.2 given member _ later⟩
  · intro found
    obtain ⟨item, member, below⟩ := found
    by_contra short
    rw [List.take_of_length_le (by omega)] at below
    exact lt_irrefl _ (below item member)

end Library
