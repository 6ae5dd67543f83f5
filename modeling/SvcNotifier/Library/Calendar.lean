import Mathlib.Algebra.GroupWithZero.Nat
import Mathlib.Data.List.Basic
import Mathlib.Tactic.Common

/-!
# The proleptic Gregorian calendar

Days are numbered from the first of January of the year 1, in both directions. A day has one
date, and a date that exists has one day: a year is found by its mean length and put right by at
most one, a month by the lengths of those before it.
-/

namespace Library

/-- The days before a year. -/
def daysBefore (year : Int) : Int :=
  365 * (year - 1) + (year - 1) / 4 - (year - 1) / 100 + (year - 1) / 400

/-- A year of 366 days. -/
def isLeap (year : Int) : Bool := year % 4 = 0 && (year % 100 ≠ 0 || year % 400 = 0)

/-- The lengths of the months of a year. -/
def monthLengths (year : Int) : List Nat :=
  [31, if isLeap year then 29 else 28, 31, 30, 31, 30, 31, 31, 30, 31, 30, 31]

/-- About the year of a day: 400 years have 146097 days. -/
def guessYear (day : Int) : Int := day * 400 / 146097 + 1

/-- The year of a day. -/
def yearOf (day : Int) : Int :=
  if day < daysBefore (guessYear day) then guessYear day - 1
  else if daysBefore (guessYear day + 1) ≤ day then guessYear day + 1
  else guessYear day

/-- The part that a position falls in, where parts of given lengths follow each other, and how
far into it. -/
def place : List Nat → Nat → Nat × Nat
  | [], position => (0, position)
  | length :: lengths, position =>
    if position < length then (0, position)
    else ((place lengths (position - length)).1 + 1, (place lengths (position - length)).2)

/-- A date; months and days are counted from one. -/
structure Date where
  /-- The year, of any sign. -/
  year : Int
  /-- The month of the year. -/
  month : Nat
  /-- The day of the month. -/
  day : Nat
  deriving DecidableEq, Repr

/-- The date of a day. -/
def Date.ofDay (day : Int) : Date :=
  let year := yearOf day
  let within := place (monthLengths year) (day - daysBefore year).toNat
  { year := year, month := within.1 + 1, day := within.2 + 1 }

/-- The day of a date, if the date exists. -/
def Date.toDay (date : Date) : Option Int :=
  match (monthLengths date.year)[date.month - 1]? with
  | none => none
  | some length =>
    if date.month = 0 ∨ date.day = 0 ∨ length < date.day then none
    else some (daysBefore date.year +
      (((monthLengths date.year).take (date.month - 1)).sum + (date.day - 1) : Nat))

/-- The months of a year make the year. -/
theorem sum_monthLengths (year : Int) :
    daysBefore (year + 1) = daysBefore year + ((monthLengths year).sum : Nat) := by
  have length : (monthLengths year).sum = if isLeap year then 366 else 365 := by
    unfold monthLengths
    split <;> rfl
  have leap : isLeap year = true ↔ year % 4 = 0 ∧ (year % 100 ≠ 0 ∨ year % 400 = 0) := by
    simp [isLeap]
  have fours : year / 4 = (year - 1) / 4 + if year % 4 = 0 then 1 else 0 := by
    split <;> omega
  have hundreds : year / 100 = (year - 1) / 100 + if year % 100 = 0 then 1 else 0 := by
    split <;> omega
  have cycles : year / 400 = (year - 1) / 400 + if year % 400 = 0 then 1 else 0 := by
    split <;> omega
  rw [length]
  simp only [daysBefore, Int.add_sub_cancel, fours, hundreds, cycles]
  by_cases isLeap_ : isLeap year = true
  · have kind := leap.mp isLeap_
    rw [if_pos isLeap_, if_pos kind.1]
    split <;> split <;> omega
  · have kind : ¬ (year % 4 = 0 ∧ (year % 100 ≠ 0 ∨ year % 400 = 0)) :=
      fun both => isLeap_ (leap.mpr both)
    rw [if_neg isLeap_]
    split <;> split <;> split <;> omega

/-- A day is in its year. -/
theorem yearOf_spec (day : Int) :
    daysBefore (yearOf day) ≤ day ∧ day < daysBefore (yearOf day + 1) := by
  have least : daysBefore (guessYear day - 1) ≤ day := by
    unfold daysBefore guessYear
    omega
  have most : day < daysBefore (guessYear day + 1 + 1) := by
    unfold daysBefore guessYear
    omega
  unfold yearOf
  split
  · rename_i early
    exact ⟨least, by rwa [Int.sub_add_cancel]⟩
  · rename_i begun
    split
    · rename_i late
      exact ⟨late, most⟩
    · rename_i unended
      omega

/-- A position is in its part. -/
theorem place_spec {lengths : List Nat} {position : Nat} (inside : position < lengths.sum) :
    ∃ length, lengths[(place lengths position).1]? = some length ∧
      (place lengths position).2 < length ∧
      (lengths.take (place lengths position).1).sum + (place lengths position).2 = position := by
  induction lengths generalizing position with
  | nil => exact absurd inside (Nat.not_lt_zero position)
  | cons first lengths ih =>
    by_cases here : position < first
    · refine ⟨first, ?_⟩
      rw [place, if_pos here]
      exact ⟨rfl, here, Nat.zero_add position⟩
    · rw [List.sum_cons] at inside
      have rest : position - first < lengths.sum := by omega
      obtain ⟨length, found, within, sum⟩ := ih rest
      refine ⟨length, ?_⟩
      rw [place, if_neg here]
      refine ⟨found, within, ?_⟩
      simp only [List.take_succ_cons, List.sum_cons]
      omega

/-- No month is longer than 31 days. -/
theorem monthLengths_le {year : Int} {month length : Nat}
    (found : (monthLengths year)[month]? = some length) : length ≤ 31 ∧ month < 12 := by
  have all : ∀ length ∈ monthLengths year, length ≤ 31 := by
    unfold monthLengths
    cases isLeap year <;> decide
  refine ⟨all length (List.mem_of_getElem? found), ?_⟩
  exact (List.getElem?_eq_some_iff.mp found).1

/-- The position of a day in its year. -/
theorem ofDay_spec (day : Int) : ∃ position length : Nat,
    day = daysBefore (yearOf day) + position ∧
    Date.ofDay day = ⟨yearOf day, (place (monthLengths (yearOf day)) position).1 + 1,
      (place (monthLengths (yearOf day)) position).2 + 1⟩ ∧
    (monthLengths (yearOf day))[(place (monthLengths (yearOf day)) position).1]? = some length ∧
    (place (monthLengths (yearOf day)) position).2 < length ∧
    ((monthLengths (yearOf day)).take (place (monthLengths (yearOf day)) position).1).sum +
      (place (monthLengths (yearOf day)) position).2 = position := by
  obtain ⟨begun, unended⟩ := yearOf_spec day
  rw [sum_monthLengths] at unended
  have inside : (day - daysBefore (yearOf day)).toNat < (monthLengths (yearOf day)).sum := by omega
  obtain ⟨length, found, within, sum⟩ := place_spec inside
  exact ⟨(day - daysBefore (yearOf day)).toNat, length, by omega, rfl, found, within, sum⟩

/-- The date of a day has that day. -/
theorem toDay_ofDay (day : Int) : (Date.ofDay day).toDay = some day := by
  obtain ⟨position, length, isDay, date, found, within, sum⟩ := ofDay_spec day
  rw [date, Date.toDay]
  simp only [Nat.add_sub_cancel, found]
  rw [if_neg (by omega), sum, ← isDay]

/-- The date of a day is written with two digits for its month and its day. -/
theorem ofDay_range (day : Int) : (Date.ofDay day).month ≤ 12 ∧ (Date.ofDay day).day ≤ 31 := by
  obtain ⟨position, length, -, date, found, within, -⟩ := ofDay_spec day
  have range := monthLengths_le found
  rw [date]
  constructor
  · exact range.2
  · exact Nat.le_trans within range.1

end Library
