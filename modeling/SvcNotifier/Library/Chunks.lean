import Mathlib.Algebra.Order.Floor.Div
import Mathlib.Data.List.Basic
import Mathlib.Data.List.Nodup
import Mathlib.Data.Nat.Basic
import Mathlib.Tactic.Common

/-!
# Splitting a sequence into chunks

`chunks` cuts a list into consecutive pieces of a given size, the last one possibly shorter,
as a slice iterator does. The pieces concatenate to the list, each holds at least one and at
most `size` elements, and their number is the length divided by the size, rounded up.
-/

namespace Library

variable {α : Type}

/-- Cut off a piece at a time; the fuel is the length of the list. -/
def chunksInto (size : Nat) : Nat → List α → List (List α)
  | 0, _ => []
  | _ + 1, [] => []
  | fuel + 1, item :: items =>
    (item :: items).take size :: chunksInto size fuel ((item :: items).drop size)

/-- Consecutive pieces of `size` elements; the last may be shorter. -/
def chunks (size : Nat) (items : List α) : List (List α) :=
  chunksInto size items.length items

/-- Cutting with enough fuel loses nothing. -/
theorem chunksInto_flatten {size : Nat} (positive : 0 < size) (fuel : Nat) (items : List α)
    (enough : items.length ≤ fuel) : (chunksInto size fuel items).flatten = items := by
  induction fuel generalizing items with
  | zero =>
    have empty : items = [] := List.length_eq_zero_iff.mp (by omega)
    simp [empty, chunksInto]
  | succ fuel ih =>
    cases items with
    | nil => rfl
    | cons item items =>
      have shorter : ((item :: items).drop size).length ≤ fuel := by
        simp only [List.length_drop, List.length_cons] at enough ⊢
        omega
      simp only [chunksInto, List.flatten_cons, ih _ shorter, List.take_append_drop]

/-- The pieces concatenate to the list. -/
@[simp] theorem chunks_flatten {size : Nat} (positive : 0 < size) (items : List α) :
    (chunks size items).flatten = items :=
  chunksInto_flatten positive _ _ (le_refl _)

/-- A piece cut off is neither empty nor longer than the size. -/
theorem chunksInto_bounds {size : Nat} (positive : 0 < size) (fuel : Nat) (items : List α) :
    ∀ piece ∈ chunksInto size fuel items, 0 < piece.length ∧ piece.length ≤ size := by
  induction fuel generalizing items with
  | zero => simp [chunksInto]
  | succ fuel ih =>
    cases items with
    | nil => simp [chunksInto]
    | cons item items =>
      intro piece member
      rcases List.mem_cons.mp member with rfl | later
      · simp only [List.length_take, List.length_cons]
        omega
      · exact ih _ piece later

/-- Every piece holds between one and `size` elements. -/
theorem chunks_bounds {size : Nat} (positive : 0 < size) (items : List α) :
    ∀ piece ∈ chunks size items, 0 < piece.length ∧ piece.length ≤ size :=
  chunksInto_bounds positive _ _

/-- Cutting with enough fuel makes as many pieces as it takes. -/
theorem length_chunksInto {size : Nat} (positive : 0 < size) (fuel : Nat) (items : List α)
    (enough : items.length ≤ fuel) :
    (chunksInto size fuel items).length = items.length ⌈/⌉ size := by
  induction fuel generalizing items with
  | zero =>
    have empty : items = [] := List.length_eq_zero_iff.mp (by omega)
    rw [empty]
    exact (zero_ceilDiv size).symm
  | succ fuel ih =>
    cases items with
    | nil => exact (zero_ceilDiv size).symm
    | cons item items =>
      have shorter : ((item :: items).drop size).length ≤ fuel := by
        simp only [List.length_drop, List.length_cons] at enough ⊢
        omega
      have rest := ih _ shorter
      rw [chunksInto, List.length_cons, rest, List.length_drop, List.length_cons,
        Nat.ceilDiv_eq_add_pred_div, Nat.ceilDiv_eq_add_pred_div]
      by_cases long : size ≤ items.length + 1
      · have split : items.length + 1 + size - 1 = (items.length + 1 - size + size - 1) + size := by
          omega
        rw [split, Nat.add_div_right _ positive]
      · have none_ : (items.length + 1 - size + size - 1) / size = 0 :=
          Nat.div_eq_of_lt (by omega)
        have one : items.length + 1 + size - 1 = items.length + size := by omega
        rw [none_, one, Nat.add_div_right _ positive, Nat.div_eq_of_lt (by omega)]

/-- The number of pieces is the length divided by the size, rounded up. -/
theorem length_chunks {size : Nat} (positive : 0 < size) (items : List α) :
    (chunks size items).length = items.length ⌈/⌉ size :=
  length_chunksInto positive _ _ (le_refl _)

/-- The pieces of a list without repetition are pairwise different. -/
theorem nodup_of_flatten_nodup {pieces : List (List α)} (distinct : pieces.flatten.Nodup)
    (nonempty : ∀ piece ∈ pieces, 0 < piece.length) : pieces.Nodup := by
  induction pieces with
  | nil => exact List.nodup_nil
  | cons piece pieces ih =>
    rw [List.flatten_cons, List.nodup_append] at distinct
    refine List.nodup_cons.mpr ⟨fun again => ?_, ih distinct.2.1 fun p member =>
      nonempty p (List.mem_cons_of_mem _ member)⟩
    obtain ⟨item, inside⟩ := List.exists_mem_of_length_pos (nonempty piece List.mem_cons_self)
    exact distinct.2.2 item inside item (List.mem_flatten.mpr ⟨piece, again, inside⟩) rfl

/-- Chunking a list without repetition yields no piece twice. -/
theorem chunks_nodup {size : Nat} (positive : 0 < size) {items : List α} (distinct : items.Nodup) :
    (chunks size items).Nodup :=
  nodup_of_flatten_nodup (by rwa [chunks_flatten positive])
    fun piece member => (chunks_bounds positive items piece member).1

end Library
