import Mathlib.Data.List.Basic
import Mathlib.Tactic.Common

/-!
# Numerals

A number as digits, the most significant first: as many as are asked for, or as few as it
needs. Reading the digits gives the number back. A scanner takes the longest run of decimal
digits at the front of a text.
-/

namespace Library

/-- A number has no more than so many digits. -/
def Fits (base : Nat) : Nat → Nat → Prop
  | 0, n => n = 0
  | width + 1, n => Fits base width (n / base)

/-- The last digits of a number, so many. -/
def digitsOf (base : Nat) : Nat → Nat → List Nat
  | 0, _ => []
  | width + 1, n => digitsOf base width (n / base) ++ [n % base]

/-- The number that digits stand for. -/
def readDigits (base : Nat) (digits : List Nat) : Nat :=
  digits.foldl (fun read digit => read * base + digit) 0

/-- The digits of a number, no leading zeros. -/
def shortest (base : Nat) : Nat → Nat → List Nat
  | 0, _ => []
  | fuel + 1, n => if n < base then [n] else shortest base fuel (n / base) ++ [n % base]

/-- Leading zeros up to a width. -/
def padded (width : Nat) (digits : List Nat) : List Nat :=
  List.replicate (width - digits.length) 0 ++ digits

variable {base width fuel n : Nat} {digits : List Nat}

@[simp] theorem length_digitsOf (base width n : Nat) : (digitsOf base width n).length = width := by
  induction width generalizing n with
  | zero => rfl
  | succ width ih => rw [digitsOf, List.length_append, ih, List.length_singleton]

/-- One digit more. -/
theorem readDigits_append (base : Nat) (digits : List Nat) (last : Nat) :
    readDigits base (digits ++ [last]) = readDigits base digits * base + last := by
  rw [readDigits, List.foldl_append]
  rfl

/-- A number that fits is read back. -/
theorem readDigits_digitsOf (fits : Fits base width n) :
    readDigits base (digitsOf base width n) = n := by
  induction width generalizing n with
  | zero => exact fits.symm
  | succ width ih =>
    have high : readDigits base (digitsOf base width (n / base)) = n / base := ih fits
    rw [digitsOf, readDigits_append, high]
    exact Nat.div_add_mod' n base

/-- A positive width has digits. -/
theorem digitsOf_ne_nil (positive : 0 < width) : digitsOf base width n ≠ [] := by
  have count := length_digitsOf base width n
  exact List.ne_nil_of_length_pos (by omega)

/-- Digits are less than the base. -/
theorem digitsOf_lt (positive : 0 < base) : ∀ digit ∈ digitsOf base width n, digit < base := by
  induction width generalizing n with
  | zero =>
    intro digit member
    cases member
  | succ width ih =>
    intro digit member
    rcases List.mem_append.mp member with high | low
    · exact ih digit high
    · rw [List.mem_singleton.mp low]
      exact Nat.mod_lt n positive

/-- A number is read back from its digits. -/
theorem readDigits_shortest (large : 2 ≤ base) (enough : n < fuel) :
    readDigits base (shortest base fuel n) = n := by
  induction fuel generalizing n with
  | zero => omega
  | succ fuel ih =>
    rw [shortest]
    split
    · rw [readDigits, List.foldl_cons, List.foldl_nil]
      omega
    · rename_i several
      have shrinks : n / base < n := Nat.div_lt_self (by omega) large
      rw [readDigits_append, ih (by omega)]
      exact Nat.div_add_mod' n base

/-- The digits of a numeral are less than the base. -/
theorem shortest_lt (positive : 0 < base) : ∀ digit ∈ shortest base fuel n, digit < base := by
  induction fuel generalizing n with
  | zero =>
    intro digit member
    cases member
  | succ fuel ih =>
    intro digit member
    rw [shortest] at member
    split at member
    · rename_i single
      rw [List.mem_singleton.mp member]
      exact single
    · rcases List.mem_append.mp member with high | low
      · exact ih digit high
      · rw [List.mem_singleton.mp low]
        exact Nat.mod_lt n positive

/-- A number that fits in a width has no more digits. -/
theorem length_shortest (large : 2 ≤ base) (fits : Fits base width n) (positive : 0 < width) :
    (shortest base fuel n).length ≤ width := by
  induction fuel generalizing n width with
  | zero => exact Nat.zero_le width
  | succ fuel ih =>
    rw [shortest]
    split
    · exact positive
    · rename_i several
      cases width with
      | zero => contradiction
      | succ width =>
        cases width with
        | zero =>
          have small : n / base = 0 := fits
          have less := (Nat.div_eq_zero_iff.mp small).resolve_left (by omega)
          exact absurd less several
        | succ width =>
          have rest : (shortest base fuel (n / base)).length ≤ width + 1 := ih fits (by omega)
          rw [List.length_append, List.length_singleton]
          omega

/-- Leading zeros are read as nothing. -/
theorem readDigits_padded (base width : Nat) (digits : List Nat) :
    readDigits base (padded width digits) = readDigits base digits := by
  have zeros : ∀ count, readDigits base (List.replicate count 0) = 0 := by
    intro count
    induction count with
    | zero => rfl
    | succ count ih =>
      rw [List.replicate_succ', readDigits_append, ih]
      omega
  have folded : ∀ zeros, readDigits base zeros = 0 →
      readDigits base (zeros ++ digits) = readDigits base digits := by
    intro zeros none_
    rw [readDigits, List.foldl_append]
    exact congrArg (fun start => digits.foldl (fun read digit => read * base + digit) start) none_
  exact folded _ (zeros _)

/-- Padded digits are as many as asked for, or as many as they were. -/
theorem length_padded (width : Nat) (digits : List Nat) :
    (padded width digits).length = max width digits.length := by
  rw [padded, List.length_append, List.length_replicate]
  omega

/-- Zeros are digits. -/
theorem padded_lt (positive : 0 < base) (small : ∀ digit ∈ digits, digit < base) :
    ∀ digit ∈ padded width digits, digit < base := by
  intro digit member
  rcases List.mem_append.mp member with zero | old
  · rw [List.eq_of_mem_replicate zero]
    exact positive
  · exact small digit old

/-! ## Digits as characters -/

/-- The value of a hexadecimal digit of either case. -/
def hexValue (c : Char) : Option Nat :=
  if c.isDigit then some (c.toNat - 48)
  else if 97 ≤ c.toNat ∧ c.toNat ≤ 102 then some (c.toNat - 87)
  else if 65 ≤ c.toNat ∧ c.toNat ≤ 70 then some (c.toNat - 55)
  else none

/-- A hexadecimal digit is read as its value. -/
theorem hexValue_digitChar : ∀ digit < 16, hexValue (Nat.digitChar digit) = some digit := by decide

/-- Digits below sixteen are read back, one by one. -/
theorem mapM_hexValue {digits : List Nat} (small : ∀ digit ∈ digits, digit < 16) :
    (digits.map Nat.digitChar).mapM hexValue = some digits := by
  induction digits with
  | nil => rfl
  | cons digit digits ih =>
    rw [List.forall_mem_cons] at small
    have first : hexValue (Nat.digitChar digit) = some digit := hexValue_digitChar digit small.1
    rw [List.map_cons, List.mapM_cons, first, ih small.2]
    rfl

/-- A decimal digit is a digit, and stands for its value. -/
theorem isDigit_digitChar : ∀ digit < 10, (Nat.digitChar digit).isDigit = true ∧
    (Nat.digitChar digit).toNat - 48 = digit := by decide

/-- No more of a text than a number of characters, if there is one. -/
def upTo (max : Option Nat) (text : List Char) : List Char :=
  match max with
  | some max => text.take max
  | none => text

/-- The longest run of decimal digits at the front of a text, up to a number of them, and the
number it stands for; it must fit a signed 64-bit integer. -/
def scanNumber (max : Option Nat) (text : List Char) : Option (Nat × List Char) :=
  let run : List Char := (upTo max text).takeWhile Char.isDigit
  let read : Nat := readDigits 10 (run.map fun c => c.toNat - 48)
  if run = [] ∨ 9223372036854775807 < read then none else some (read, text.drop run.length)

/-- No digit comes next. -/
def Undigited (rest : List Char) : Prop := ∀ c ∈ rest.head?, c.isDigit = false

/-- No digit comes first in what is cut off where no digit comes next. -/
theorem Undigited.take {rest : List Char} (ends : Undigited rest) (count : Nat) :
    Undigited (rest.take count) := by
  intro c first
  cases rest with
  | nil =>
    rw [List.take_nil] at first
    cases first
  | cons other rest =>
    cases count with
    | zero => cases first
    | succ count =>
      rw [List.take_succ_cons] at first
      exact ends c first

/-- A run of items of a kind, where none comes next. -/
theorem takeWhile_run {α : Type} {kind : α → Bool} {run rest : List α}
    (all : ∀ item ∈ run, kind item = true) (ends : ∀ item ∈ rest.head?, kind item = false) :
    (run ++ rest).takeWhile kind = run := by
  rw [List.takeWhile_append_of_pos all]
  cases rest with
  | nil => rw [List.takeWhile_nil, List.append_nil]
  | cons item rest =>
    have stop : kind item = false := ends item rfl
    rw [List.takeWhile_cons_of_neg (by rw [stop]; exact Bool.false_ne_true), List.append_nil]

/-- A run of digits is read as its number. -/
theorem scanNumber_digits {max : Option Nat} {digits : List Nat} {rest : List Char}
    (some_ : digits ≠ []) (decimal : ∀ digit ∈ digits, digit < 10)
    (within : ∀ most ∈ max, digits.length ≤ most)
    (small : readDigits 10 digits ≤ 9223372036854775807) (ends : Undigited rest) :
    scanNumber max (digits.map Nat.digitChar ++ rest) = some (readDigits 10 digits, rest) := by
  have all : ∀ c ∈ digits.map Nat.digitChar, c.isDigit = true := by
    intro c member
    obtain ⟨digit, inside, rfl⟩ := List.mem_map.mp member
    exact (isDigit_digitChar digit (decimal digit inside)).1
  have run : (upTo max (digits.map Nat.digitChar ++ rest)).takeWhile Char.isDigit =
      digits.map Nat.digitChar := by
    cases max with
    | none => exact takeWhile_run all ends
    | some most =>
      have fits : (digits.map Nat.digitChar).length ≤ most := by
        rw [List.length_map]
        exact within most rfl
      rw [upTo, List.take_append, List.take_of_length_le fits]
      exact takeWhile_run all (ends.take _)
  have value : readDigits 10 ((digits.map Nat.digitChar).map fun c => c.toNat - 48) =
      readDigits 10 digits := by
    rw [List.map_map]
    refine congrArg (readDigits 10) ?_
    conv_rhs => rw [← List.map_id digits]
    refine List.map_congr_left fun digit member => ?_
    exact (isDigit_digitChar digit (decimal digit member)).2
  have proper : ¬ (digits.map Nat.digitChar = [] ∨ 9223372036854775807 < readDigits 10 digits) := by
    intro either
    rcases either with empty | large
    · exact some_ (List.map_eq_nil_iff.mp empty)
    · omega
  rw [scanNumber]
  simp only [run, value]
  rw [if_neg proper, List.drop_left]

end Library
