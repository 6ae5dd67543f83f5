import SvcNotifier.Intake.Language
import SvcNotifier.Notification
import SvcNotifier.Library.Calendar
import SvcNotifier.Library.Json

/-!
# Identifiers and instants on the wire

An identifier is written as its hyphenated lower-case digits and read in any of the forms that
`uuid` accepts. An instant is written as chrono writes RFC 3339, in UTC, with as many digits of
the second as it has, in threes; it is read by chrono's relaxed reader. What is written is read
back, to the nanosecond.
-/

namespace SvcNotifier

open Library

/-! ## Identifiers -/

/-- 32 hexadecimal digits of either case. -/
def Uuid.parseDigits (digits : List Char) : Option Uuid :=
  if digits.length = 32 then
    (digits.mapM hexValue).map fun values => ⟨BitVec.ofNat 128 (readDigits 16 values)⟩
  else none

/-- Digits in groups of 8, 4, 4, 4 and 12, with hyphens between them. -/
def Uuid.parseHyphenated (text : List Char) : Option Uuid :=
  if text[8]? = some '-' ∧ text[13]? = some '-' ∧ text[18]? = some '-' ∧ text[23]? = some '-' then
    Uuid.parseDigits (text.take 8 ++ (text.drop 9).take 4 ++ (text.drop 14).take 4 ++
      (text.drop 19).take 4 ++ text.drop 24)
  else none

/-- `Uuid::parse_str`: hyphenated, also in braces or as a URN, or plain digits. -/
def Uuid.parseStr (text : List Char) : Option Uuid :=
  if text.length = 32 then Uuid.parseDigits text
  else if text.length = 36 then Uuid.parseHyphenated text
  else if text.length = 38 ∧ text.head? = some '\x7b' ∧ text.getLast? = some '\x7d' then
    Uuid.parseHyphenated ((text.drop 1).take 36)
  else if text.length = 45 ∧ text.take 9 = "urn:uuid:".toList then
    Uuid.parseHyphenated (text.drop 9)
  else none

/-- The digits of a number in base 16, by shifting. -/
theorem digitsOf_shifted (width n : Nat) :
    (List.range width).map (fun place => (n >>> (4 * (width - 1 - place))) % 16) =
      digitsOf 16 width n := by
  induction width generalizing n with
  | zero => rfl
  | succ width ih =>
    have high : (List.range width).map (fun place => (n >>> (4 * (width - place))) % 16) =
        digitsOf 16 width (n / 16) := by
      rw [← ih]
      refine List.map_congr_left fun place member => ?_
      have inside : place < width := List.mem_range.mp member
      have split : 4 * (width - place) = 4 + 4 * (width - 1 - place) := by omega
      rw [split, Nat.shiftRight_add, Nat.shiftRight_eq_div_pow n 4]
    rw [List.range_succ, List.map_append, digitsOf]
    simp only [Nat.add_sub_cancel, high, List.map_singleton, Nat.sub_self, Nat.mul_zero,
      Nat.shiftRight_zero]

/-- The digits that an identifier is written with. -/
theorem Uuid.hexDigits_eq (id : Uuid) :
    id.hexDigits = (digitsOf 16 32 id.bits.toNat).map Nat.digitChar := by
  rw [← digitsOf_shifted, List.map_map]
  rfl

/-- An identifier has no more than 32 digits. -/
theorem Uuid.fits (id : Uuid) : Fits 16 32 id.bits.toNat := by
  have bound := id.bits.isLt
  simp only [Fits]
  omega

/-- An identifier has 32 digits. -/
theorem Uuid.length_hexDigits (id : Uuid) : id.hexDigits.length = 32 := by
  rw [Uuid.hexDigits, List.length_map, List.length_range]

/-- An identifier is read back from its digits. -/
theorem Uuid.parseDigits_hexDigits (id : Uuid) : Uuid.parseDigits id.hexDigits = some id := by
  have values : id.hexDigits.mapM hexValue = some (digitsOf 16 32 id.bits.toNat) := by
    rw [Uuid.hexDigits_eq]
    exact mapM_hexValue (digitsOf_lt (by decide))
  rw [Uuid.parseDigits, if_pos id.length_hexDigits, values, Option.map_some,
    readDigits_digitsOf id.fits, BitVec.ofNat_toNat, BitVec.setWidth_eq]

/-- The characters that an identifier is written with. -/
theorem Uuid.toList_hyphenated (id : Uuid) :
    id.hyphenated.toList = id.hexDigits.take 8 ++ '-' :: (id.hexDigits.drop 8).take 4 ++
      '-' :: (id.hexDigits.drop 12).take 4 ++ '-' :: (id.hexDigits.drop 16).take 4 ++
      '-' :: id.hexDigits.drop 20 :=
  String.toList_ofList

/-- An identifier is written with 36 characters. -/
theorem Uuid.length_hyphenated (id : Uuid) : id.hyphenated.toList.length = 36 := by
  rw [Uuid.toList_hyphenated]
  simp only [List.length_append, List.length_cons, List.length_take, List.length_drop,
    id.length_hexDigits]
  decide

/-- Hyphens are skipped between groups of the right lengths. -/
theorem Uuid.parseHyphenated_groups {first second third fourth last : List Char}
    (eight : first.length = 8) (four : second.length = 4) (four' : third.length = 4)
    (four'' : fourth.length = 4) :
    Uuid.parseHyphenated (first ++ '-' :: second ++ '-' :: third ++ '-' :: fourth ++ '-' :: last) =
      Uuid.parseDigits (first ++ second ++ third ++ fourth ++ last) := by
  simp [Uuid.parseHyphenated, List.getElem?_append, List.drop_append, eight, four, four', four'',
    List.drop_eq_nil_of_le]

/-- An identifier is read back from its text. -/
theorem Uuid.parseStr_hyphenated (id : Uuid) : Uuid.parseStr id.hyphenated.toList = some id := by
  have count := id.length_hexDigits
  have group : ∀ first, first + 4 ≤ 32 → ((id.hexDigits.drop first).take 4).length = 4 := by
    intro first inside
    rw [List.length_take, List.length_drop, count]
    omega
  have eight : (id.hexDigits.take 8).length = 8 := by
    rw [List.length_take, count]
    rfl
  have joined : ∀ first, (id.hexDigits.drop first).take 4 ++ id.hexDigits.drop (first + 4) =
      id.hexDigits.drop first := by
    intro first
    rw [← List.drop_drop, List.take_append_drop]
  have long : id.hyphenated.toList.length ≠ 32 := by
    rw [id.length_hyphenated]
    decide
  rw [Uuid.parseStr, if_neg long, if_pos id.length_hyphenated, Uuid.toList_hyphenated,
    Uuid.parseHyphenated_groups eight (group 8 (by decide)) (group 12 (by decide))
      (group 16 (by decide))]
  rw [List.append_assoc, joined 16, List.append_assoc, joined 12, List.append_assoc, joined 8,
    List.take_append_drop]
  exact id.parseDigits_hexDigits

/-! ## Instants -/

/-- The first year that chrono's dates reach. -/
def minYear : Int := -262143

/-- The last year that chrono's dates reach. -/
def maxYear : Int := 262142

namespace DateTime

/-- The day of an instant, from the first of January of the year 1. -/
def day (instant : DateTime) : Int := instant.nanos / 86400000000000 + 719162

/-- The nanoseconds since its day began. -/
def timeOfDay (instant : DateTime) : Nat := (instant.nanos % 86400000000000).toNat

/-- The instants that `DateTime<Utc>` has: those of the years of its dates. -/
def Representable (instant : DateTime) : Prop :=
  minYear ≤ yearOf instant.day ∧ yearOf instant.day ≤ maxYear

instance (instant : DateTime) : Decidable instant.Representable :=
  inferInstanceAs (Decidable (minYear ≤ yearOf instant.day ∧ yearOf instant.day ≤ maxYear))

end DateTime

/-- A number in so many decimal digits. -/
def decimal (width n : Nat) : List Char := (digitsOf 10 width n).map Nat.digitChar

/-- The digits of a year beyond the four-digit ones. -/
def longYear (year : Nat) : List Nat := padded 4 (shortest 10 (year + 1) year)

/-- A year: four digits, or a sign and at least four. -/
def writeYear (year : Int) : List Char :=
  if 0 ≤ year ∧ year ≤ 9999 then decimal 4 year.toNat
  else (if year < 0 then '-' else '+') :: (longYear year.natAbs).map Nat.digitChar

/-- `SecondsFormat::AutoSi`: the fraction of a second, in as many groups of three digits as it
has. -/
def writeFraction (nanos : Nat) : List Char :=
  if nanos = 0 then []
  else if nanos % 1000000 = 0 then '.' :: decimal 3 (nanos / 1000000)
  else if nanos % 1000 = 0 then '.' :: decimal 6 (nanos / 1000)
  else '.' :: decimal 9 nanos

/-- A date, up to the character after it. -/
def writeDate (date : Date) (rest : List Char) : List Char :=
  writeYear date.year ++ '-' :: (decimal 2 date.month ++ '-' :: (decimal 2 date.day ++ rest))

/-- A time of day, in nanoseconds, up to the character after it. -/
def writeTime (time : Nat) (rest : List Char) : List Char :=
  decimal 2 (time / 3600000000000) ++ ':' :: (decimal 2 (time / 60000000000 % 60) ++
    ':' :: (decimal 2 (time / 1000000000 % 60) ++ (writeFraction (time % 1000000000) ++ rest)))

/-- `write_rfc3339` of an instant in UTC, as `DateTime<Utc>` is serialized. -/
def DateTime.rfc3339 (instant : DateTime) : List Char :=
  writeDate (Date.ofDay instant.day) ('T' :: writeTime instant.timeOfDay ['Z'])

/-- Leading whitespace is skipped. -/
def trimStart (text : List Char) : List Char := text.dropWhile isWhitespace

/-- A field of at most two digits. -/
def readField (text : List Char) : Option (Nat × List Char) := scanNumber (some 2) (trimStart text)

/-- A year: up to four digits, or any number of them after a sign. -/
def readYear (text : List Char) : Option (Int × List Char) :=
  let text := trimStart text
  if text.head? = some '-' then
    (scanNumber none (text.drop 1)).map fun read => (-(read.1 : Int), read.2)
  else if text.head? = some '+' then
    (scanNumber none (text.drop 1)).map fun read => ((read.1 : Int), read.2)
  else (scanNumber (some 4) text).map fun read => ((read.1 : Int), read.2)

/-- A separator, after whitespace. -/
def readSeparator (separator : Char) (text : List Char) : Option (List Char) :=
  match trimStart text with
  | c :: rest => if c = separator then some rest else none
  | [] => none

/-- What separates the time from the date. -/
def readT : List Char → Option (List Char)
  | c :: rest => if c = 'T' ∨ c = 't' ∨ c = ' ' then some rest else none
  | [] => none

/-- What a fraction of so many digits is multiplied by. -/
def fractionScale (digits : Nat) : Nat :=
  [0, 100000000, 10000000, 1000000, 100000, 10000, 1000, 100, 10, 1].getD digits 0

/-- A fraction of a second, in nanoseconds; digits beyond the ninth are skipped. -/
def readFraction : List Char → Option (Nat × List Char)
  | '.' :: rest => (scanNumber (some 9) rest).map fun read =>
    (read.1 * fractionScale (rest.length - read.2.length), read.2.dropWhile Char.isDigit)
  | rest => some (0, rest)

/-- Two digits, the first at most so much. -/
def readPair (most : Nat) : List Char → Option (Nat × List Char)
  | a :: b :: rest =>
    if a.isDigit && b.isDigit && a.toNat - 48 ≤ most then
      some ((a.toNat - 48) * 10 + (b.toNat - 48), rest)
    else none
  | _ => none

/-- `timezone_offset`, in seconds: `Z`, or a sign with hours and minutes. -/
def readOffset (text : List Char) : Option (Int × List Char) :=
  match text with
  | c :: rest =>
    if c = 'Z' ∨ c = 'z' then some (0, rest)
    else if c = '+' ∨ c = '-' ∨ c.toNat = 0x2212 then do
      let (hours, rest) ← readPair 9 rest
      let (minutes, rest) ← readPair 5 (rest.dropWhile fun c => c = ':' || isWhitespace c)
      let seconds : Int := (hours * 3600 + minutes * 60 : Nat)
      some (if c = '+' then seconds else -seconds, rest)
    else none
  | [] => none

/-- The zone of a relaxed RFC 3339 text: `UTC` in any case, or an offset. -/
def readZone (text : List Char) : Option (Int × List Char) :=
  let text := trimStart text
  if (text.take 3).map Char.toUpper = ['U', 'T', 'C'] then some (0, text.drop 3)
  else readOffset text

/-- The fields of a text, in the order they are written. -/
structure Fields where
  /-- The year, of any sign. -/
  year : Int
  /-- The month of the year. -/
  month : Nat
  /-- The day of the month. -/
  day : Nat
  /-- The hour of the day. -/
  hour : Nat
  /-- The minute of the hour. -/
  minute : Nat
  /-- The second of the minute, 60 for a leap second. -/
  second : Nat
  /-- The fraction of the second. -/
  nanos : Nat
  /-- The offset from UTC, in seconds. -/
  offset : Int
  deriving DecidableEq, Repr

/-- `DATE_ITEMS`: a year, a month and a day. -/
def readDate (text : List Char) : Option ((Int × Nat × Nat) × List Char) := do
  let (year, text) ← readYear text
  let text ← readSeparator '-' text
  let (month, text) ← readField text
  let text ← readSeparator '-' text
  let (day, text) ← readField text
  some ((year, month, day), text)

/-- `TIME_ITEMS`: an hour, a minute, a second and its fraction. -/
def readTime (text : List Char) : Option ((Nat × Nat × Nat × Nat) × List Char) := do
  let (hour, text) ← readField text
  let text ← readSeparator ':' text
  let (minute, text) ← readField text
  let text ← readSeparator ':' text
  let (second, text) ← readField text
  let (nanos, text) ← readFraction text
  some ((hour, minute, second, nanos), text)

/-- `parse_rfc3339_relaxed`. -/
def readFields (text : List Char) : Option (Fields × List Char) := do
  let ((year, month, day), text) ← readDate text
  let text ← readT text
  let ((hour, minute, second, nanos), text) ← readTime text
  let (offset, text) ← readZone text
  some ({ year, month, day, hour, minute, second, nanos, offset }, text)

/-- `Parsed::to_datetime`, in UTC: the date must exist, the time must be one of a day, a leap
second included, and the instant one that chrono has. -/
def Fields.toDateTime (fields : Fields) : Option DateTime := do
  let day ← Date.toDay { year := fields.year, month := fields.month, day := fields.day }
  if fields.year < minYear ∨ maxYear < fields.year ∨ 23 < fields.hour ∨ 59 < fields.minute ∨
      60 < fields.second ∨ 86400 ≤ fields.offset.natAbs then none
  else
    let seconds : Int := (fields.hour * 3600 + fields.minute * 60 + fields.second : Nat)
    let instant : DateTime :=
      ⟨((day - 719162) * 86400 + seconds - fields.offset) * 1000000000 + (fields.nanos : Int)⟩
    if instant.Representable then some instant else none

/-- `DateTime::from_str`, as `DateTime<Utc>` is deserialized. -/
def DateTime.parse (text : List Char) : Option DateTime := do
  let (fields, rest) ← readFields text
  if trimStart rest = [] then fields.toDateTime else none

/-! ## Instants are read back -/

/-- Digits are not skipped. -/
theorem trimStart_digits {digits : List Nat} (some_ : digits ≠ [])
    (decimal : ∀ digit ∈ digits, digit < 10) (rest : List Char) :
    trimStart (digits.map Nat.digitChar ++ rest) = digits.map Nat.digitChar ++ rest := by
  have visible : ∀ digit < 10, isWhitespace (Nat.digitChar digit) = false := by decide
  cases digits with
  | nil => exact absurd rfl some_
  | cons digit digits =>
    have first := visible digit (decimal digit List.mem_cons_self)
    exact List.dropWhile_cons_of_neg (by rw [first]; exact Bool.false_ne_true)

/-- A character that is no whitespace is not skipped. -/
theorem trimStart_cons {c : Char} (visible : isWhitespace c = false) (rest : List Char) :
    trimStart (c :: rest) = c :: rest :=
  List.dropWhile_cons_of_neg (by rw [visible]; exact Bool.false_ne_true)

/-- A character that is no digit ends a number. -/
theorem undigited_cons {c : Char} (ends : c.isDigit = false) (rest : List Char) :
    Undigited (c :: rest) := by
  intro first head
  obtain rfl := Option.some.inj head
  exact ends

/-- A number is scanned from its digits. -/
theorem scanNumber_decimal {max : Option Nat} {width n : Nat} {rest : List Char}
    (fits : Fits 10 width n) (positive : 0 < width) (within : ∀ most ∈ max, width ≤ most)
    (small : n ≤ 9223372036854775807) (ends : Undigited rest) :
    scanNumber max (decimal width n ++ rest) = some (n, rest) := by
  have read : readDigits 10 (digitsOf 10 width n) = n := readDigits_digitsOf fits
  have count := length_digitsOf 10 width n
  have scanned : scanNumber max (decimal width n ++ rest) =
      some (readDigits 10 (digitsOf 10 width n), rest) :=
    scanNumber_digits (digitsOf_ne_nil positive) (digitsOf_lt (by decide))
      (by rw [count]; exact within)
      (by rw [read]; exact small) ends
  rw [scanned, read]

/-- A field of two digits is read back. -/
theorem readField_decimal {n : Nat} {rest : List Char} (small : n < 100) (ends : Undigited rest) :
    readField (decimal 2 n ++ rest) = some (n, rest) := by
  have fits : Fits 10 2 n := by
    simp only [Fits]
    omega
  have untrimmed : trimStart (decimal 2 n ++ rest) = decimal 2 n ++ rest :=
    trimStart_digits (digitsOf_ne_nil (by decide)) (digitsOf_lt (by decide)) rest
  rw [readField, untrimmed]
  refine scanNumber_decimal fits (by decide) ?_ (by omega) ends
  intro most two
  rw [Option.some.inj two]

/-- A text that starts with digits starts with no sign. -/
theorem head_digits {digits : List Nat} (some_ : digits ≠ [])
    (decimal : ∀ digit ∈ digits, digit < 10)
    (rest : List Char) {sign : Char} (other : sign.isDigit = false) :
    (digits.map Nat.digitChar ++ rest).head? ≠ some sign := by
  cases digits with
  | nil => exact absurd rfl some_
  | cons digit digits =>
    intro head
    have same : Nat.digitChar digit = sign := Option.some.inj head
    have isDigit := (isDigit_digitChar digit (decimal digit List.mem_cons_self)).1
    rw [same, other] at isDigit
    contradiction

/-- The digits of a long year. -/
theorem scanNumber_longYear {year : Nat} (small : year ≤ 9223372036854775807) {rest : List Char}
    (ends : Undigited rest) :
    scanNumber none ((longYear year).map Nat.digitChar ++ rest) = some (year, rest) := by
  have read : readDigits 10 (longYear year) = year := by
    rw [longYear, readDigits_padded]
    exact readDigits_shortest (by decide) (Nat.lt_succ_self year)
  have some_ : longYear year ≠ [] := by
    intro none_
    have count := length_padded 4 (shortest 10 (year + 1) year)
    rw [longYear] at none_
    rw [none_, List.length_nil] at count
    omega
  have scanned : scanNumber none ((longYear year).map Nat.digitChar ++ rest) =
      some (readDigits 10 (longYear year), rest) := by
    refine scanNumber_digits some_ (padded_lt (by decide) (shortest_lt (by decide))) ?_ ?_ ends
    · intro most none_
      contradiction
    · rw [read]
      exact small
  rw [scanned, read]

/-- A year is read back. -/
theorem readYear_writeYear {year : Int} (least : minYear ≤ year) (most : year ≤ maxYear)
    (rest : List Char) : readYear (writeYear year ++ '-' :: rest) = some (year, '-' :: rest) := by
  have ends : Undigited ('-' :: rest) := undigited_cons (by decide) rest
  unfold minYear at least
  unfold maxYear at most
  by_cases short : 0 ≤ year ∧ year ≤ 9999
  · have fits : Fits 10 4 year.toNat := by
      simp only [Fits]
      omega
    have some_ : digitsOf 10 4 year.toNat ≠ [] := digitsOf_ne_nil (by decide)
    have ten : ∀ digit ∈ digitsOf 10 4 year.toNat, digit < 10 := digitsOf_lt (by decide)
    have untrimmed : trimStart (decimal 4 year.toNat ++ '-' :: rest) =
        decimal 4 year.toNat ++ '-' :: rest := trimStart_digits some_ ten _
    have unsigned : ∀ sign : Char, sign.isDigit = false →
        (decimal 4 year.toNat ++ '-' :: rest).head? ≠ some sign :=
      fun sign other => head_digits some_ ten _ other
    have read : scanNumber (some 4) (decimal 4 year.toNat ++ '-' :: rest) =
        some (year.toNat, '-' :: rest) := by
      refine scanNumber_decimal fits (by decide) ?_ (by omega) ends
      intro most four
      rw [Option.some.inj four]
    have same : ((year.toNat : Nat) : Int) = year := Int.toNat_of_nonneg short.1
    rw [writeYear, if_pos short]
    simp only [readYear, untrimmed, if_neg (unsigned '-' (by decide)),
      if_neg (unsigned '+' (by decide)), read, Option.map_some, same]
  · have read : scanNumber none ((longYear year.natAbs).map Nat.digitChar ++ '-' :: rest) =
        some (year.natAbs, '-' :: rest) := scanNumber_longYear (by omega) ends
    have minus : isWhitespace '-' = false := by decide
    have plus : isWhitespace '+' = false := by decide
    rw [writeYear, if_neg short]
    by_cases negative : year < 0
    · have same : -((year.natAbs : Nat) : Int) = year := by omega
      simp only [if_pos negative, List.cons_append, readYear, trimStart_cons minus, List.head?_cons,
        if_true, List.drop_one, List.tail_cons, read, Option.map_some, same]
    · have same : ((year.natAbs : Nat) : Int) = year := by omega
      have unlike : ¬ some '+' = some '-' := by decide
      simp only [if_neg negative, List.cons_append, readYear, trimStart_cons plus, List.head?_cons,
        if_neg unlike, if_true, List.drop_one, List.tail_cons, read, Option.map_some, same]

/-- A fraction in so many digits is read back. -/
theorem readFraction_decimal {width value : Nat} (fits : Fits 10 width value) (positive : 0 < width)
    (within : width ≤ 9) (small : value < 1000000000) (rest : List Char) :
    readFraction ('.' :: decimal width value ++ 'Z' :: rest) =
      some (value * fractionScale width, 'Z' :: rest) := by
  have ends : Undigited ('Z' :: rest) := undigited_cons (by decide) rest
  have read : scanNumber (some 9) (decimal width value ++ 'Z' :: rest) =
      some (value, 'Z' :: rest) := by
    refine scanNumber_decimal fits positive ?_ (by omega) ends
    intro most nine
    rw [← Option.some.inj nine]
    exact within
  have count : (decimal width value ++ 'Z' :: rest).length - ('Z' :: rest).length = width := by
    rw [List.length_append, decimal, List.length_map, length_digitsOf]
    omega
  have stops : ('Z' :: rest).dropWhile Char.isDigit = 'Z' :: rest :=
    List.dropWhile_cons_of_neg (by decide)
  simp only [List.cons_append, readFraction, read, Option.map_some, count, stops]

/-- A fraction is read back. -/
theorem readFraction_writeFraction {nanos : Nat} (small : nanos < 1000000000) (rest : List Char) :
    readFraction (writeFraction nanos ++ 'Z' :: rest) = some (nanos, 'Z' :: rest) := by
  unfold writeFraction
  split
  · rename_i zero
    rw [zero]
    rfl
  · split
    · rename_i millis
      have fits : Fits 10 3 (nanos / 1000000) := by
        simp only [Fits]
        omega
      have whole : nanos / 1000000 * fractionScale 3 = nanos :=
        Nat.div_mul_cancel (Nat.dvd_of_mod_eq_zero millis)
      rw [readFraction_decimal fits (by decide) (by decide) (by omega), whole]
    · split
      · rename_i micros
        have fits : Fits 10 6 (nanos / 1000) := by
          simp only [Fits]
          omega
        have whole : nanos / 1000 * fractionScale 6 = nanos :=
          Nat.div_mul_cancel (Nat.dvd_of_mod_eq_zero micros)
        rw [readFraction_decimal fits (by decide) (by decide) (by omega), whole]
      · have fits : Fits 10 9 nanos := by
          simp only [Fits]
          omega
        have whole : nanos * fractionScale 9 = nanos := Nat.mul_one nanos
        rw [readFraction_decimal fits (by decide) (by decide) small, whole]

/-- A time of day is read back from its parts. -/
theorem timeOfDay_parts (time : Nat) :
    (time / 3600000000000 * 3600 + time / 60000000000 % 60 * 60 + time / 1000000000 % 60) *
      1000000000 + time % 1000000000 = time := by
  have minutes : time / 60000000000 = time / 1000000000 / 60 := by omega
  have hours : time / 3600000000000 = time / 1000000000 / 60 / 60 := by omega
  rw [minutes, hours]
  omega

/-- A field that a separator follows is read back. -/
theorem readField_separated {n : Nat} (small : n < 100) {separator : Char}
    (ends : separator.isDigit = false) (rest : List Char) :
    readField (decimal 2 n ++ separator :: rest) = some (n, separator :: rest) :=
  readField_decimal small (undigited_cons ends rest)

/-- A separator is read back. -/
theorem readSeparator_cons {separator : Char} (visible : isWhitespace separator = false)
    (rest : List Char) : readSeparator separator (separator :: rest) = some rest := by
  simp only [readSeparator, trimStart_cons visible, if_true]

/-- No digit follows the seconds. -/
theorem undigited_writeFraction (nanos : Nat) (rest : List Char) :
    Undigited (writeFraction nanos ++ 'Z' :: rest) := by
  have point : '.'.isDigit = false := by decide
  unfold writeFraction
  split
  · exact undigited_cons (by decide) rest
  · split
    · exact undigited_cons point _
    · split
      · exact undigited_cons point _
      · exact undigited_cons point _

/-- The fields of an instant, as they are written. -/
def DateTime.fields (instant : DateTime) : Fields :=
  let date := Date.ofDay instant.day
  let time := instant.timeOfDay
  { year := date.year, month := date.month, day := date.day, hour := time / 3600000000000
    minute := time / 60000000000 % 60, second := time / 1000000000 % 60
    nanos := time % 1000000000, offset := 0 }

/-- A date is read back. -/
theorem readDate_writeDate {date : Date} (least : minYear ≤ date.year) (most : date.year ≤ maxYear)
    (month : date.month < 100) (day : date.day < 100) {separator : Char}
    (ends : separator.isDigit = false) (rest : List Char) :
    readDate (writeDate date (separator :: rest)) =
      some ((date.year, date.month, date.day), separator :: rest) := by
  have visible : isWhitespace '-' = false := by decide
  have dash : '-'.isDigit = false := by decide
  simp only [readDate, writeDate, readYear_writeYear least most, Option.bind_eq_bind,
    Option.bind_some, readSeparator_cons visible, readField_separated month dash,
    readField_separated day ends]

/-- A time of day is read back. -/
theorem readTime_writeTime {time : Nat} (inside : time < 86400000000000) (rest : List Char) :
    readTime (writeTime time ('Z' :: rest)) =
      some ((time / 3600000000000, time / 60000000000 % 60, time / 1000000000 % 60,
        time % 1000000000), 'Z' :: rest) := by
  have visible : isWhitespace ':' = false := by decide
  have colon : ':'.isDigit = false := by decide
  have hour : time / 3600000000000 < 100 := by omega
  have minute : time / 60000000000 % 60 < 100 := by omega
  have second : time / 1000000000 % 60 < 100 := by omega
  have nanos : time % 1000000000 < 1000000000 := by omega
  have seconds := readField_decimal second (undigited_writeFraction (time % 1000000000) rest)
  simp only [readTime, writeTime, readField_separated hour colon, Option.bind_eq_bind,
    Option.bind_some, readSeparator_cons visible, readField_separated minute colon, seconds,
    readFraction_writeFraction nanos rest]

/-- A time of day ends with its day. -/
theorem DateTime.timeOfDay_lt (instant : DateTime) : instant.timeOfDay < 86400000000000 := by
  unfold DateTime.timeOfDay
  omega

/-- The fields of an instant are read back. -/
theorem readFields_rfc3339 {instant : DateTime} (representable : instant.Representable) :
    readFields instant.rfc3339 = some (instant.fields, []) := by
  have range := ofDay_range instant.day
  have month : (Date.ofDay instant.day).month < 100 := by omega
  have day : (Date.ofDay instant.day).day < 100 := by omega
  have ends : 'T'.isDigit = false := by decide
  have date := readDate_writeDate representable.1 representable.2 month day ends
    (writeTime instant.timeOfDay ['Z'])
  have separated : ∀ rest, readT ('T' :: rest) = some rest := fun _ => rfl
  have time := readTime_writeTime instant.timeOfDay_lt []
  have zone : readZone ['Z'] = some (0, []) := by decide
  rw [readFields, DateTime.rfc3339, date]
  simp only [Option.bind_eq_bind, Option.bind_some, separated, time, zone]
  rfl

/-- An instant is its day and its time of day. -/
theorem DateTime.day_timeOfDay (instant : DateTime) :
    (instant.day - 719162) * 86400000000000 + (instant.timeOfDay : Int) = instant.nanos := by
  unfold DateTime.day DateTime.timeOfDay
  omega

/-- An instant is that of its fields. -/
theorem DateTime.toDateTime_fields {instant : DateTime} (representable : instant.Representable) :
    instant.fields.toDateTime = some instant := by
  have date : Date.toDay { year := instant.fields.year, month := instant.fields.month
                           day := instant.fields.day } = some instant.day := toDay_ofDay instant.day
  have least : minYear ≤ instant.fields.year := representable.1
  have most : instant.fields.year ≤ maxYear := representable.2
  have time := instant.timeOfDay_lt
  have hour : instant.fields.hour = instant.timeOfDay / 3600000000000 := rfl
  have minute : instant.fields.minute = instant.timeOfDay / 60000000000 % 60 := rfl
  have second : instant.fields.second = instant.timeOfDay / 1000000000 % 60 := rfl
  have nanos : instant.fields.nanos = instant.timeOfDay % 1000000000 := rfl
  have offset : instant.fields.offset = 0 := rfl
  have valid : ¬ (instant.fields.year < minYear ∨ maxYear < instant.fields.year ∨
      23 < instant.fields.hour ∨ 59 < instant.fields.minute ∨ 60 < instant.fields.second ∨
      86400 ≤ instant.fields.offset.natAbs) := by
    rw [hour, minute, second, offset]
    omega
  have parts := timeOfDay_parts instant.timeOfDay
  have whole := instant.day_timeOfDay
  have same : ((instant.day - 719162) * 86400 + ((instant.fields.hour * 3600 +
      instant.fields.minute * 60 + instant.fields.second : Nat) : Int) - instant.fields.offset) *
        1000000000 + (instant.fields.nanos : Int) = instant.nanos := by
    rw [hour, minute, second, nanos, offset]
    omega
  simp only [Fields.toDateTime, date, Option.bind_eq_bind, Option.bind_some, if_neg valid, same,
    if_pos representable]

/-- An instant is read back from its text. -/
theorem DateTime.parse_rfc3339 {instant : DateTime} (representable : instant.Representable) :
    DateTime.parse instant.rfc3339 = some instant := by
  have ends : trimStart [] = [] := rfl
  simp only [DateTime.parse, readFields_rfc3339 representable, Option.bind_eq_bind,
    Option.bind_some, ends, if_true, DateTime.toDateTime_fields representable]

end SvcNotifier
