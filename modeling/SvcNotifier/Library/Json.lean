import SvcNotifier.Library.Numerals
import Mathlib.Algebra.GroupWithZero.Nat
import Mathlib.Data.String.Basic

/-!
# JSON texts

A value as a tree, written without blanks and read with them, as RFC 8259 has it. Strings are
escaped where they must be; arrays and objects may be nested so deep and no deeper. What is
written is read back. A number is kept as its numeral, of any size.
-/

namespace Library

/-- A JSON value; an object is its members, in order. -/
inductive Json where
  /-- The null value. -/
  | null
  /-- A truth value. -/
  | bool (flag : Bool)
  /-- A number, by its numeral. -/
  | number (numeral : List Char)
  /-- A string, without its escapes. -/
  | string (text : List Char)
  /-- An array. -/
  | array (items : List Json)
  /-- An object; a key may be there more than once. -/
  | object (members : List (List Char × Json))

namespace Json

/-! ## Writing -/

/-- A double quote. -/
def quote : Char := '\x22'

/-- A backslash. -/
def backslash : Char := '\x5c'

/-- How a character of a string is written. -/
def escape (c : Char) : List Char :=
  if c = quote then [backslash, quote]
  else if c = backslash then [backslash, backslash]
  else if c.toNat = 8 then [backslash, 'b']
  else if c.toNat = 9 then [backslash, 't']
  else if c.toNat = 10 then [backslash, 'n']
  else if c.toNat = 12 then [backslash, 'f']
  else if c.toNat = 13 then [backslash, 'r']
  else if c.toNat < 32 then
    [backslash, 'u', '0', '0', Nat.digitChar (c.toNat / 16), Nat.digitChar (c.toNat % 16)]
  else [c]

/-- A string in quotes. -/
def quoted (text : List Char) : List Char := quote :: (text.flatMap escape ++ [quote])

/-- Texts with commas between them. -/
def commaJoined : List (List Char) → List Char
  | [] => []
  | [text] => text
  | text :: texts => text ++ ',' :: commaJoined texts

mutual

/-- The text of a value. -/
def print : Json → List Char
  | .null => "null".toList
  | .bool true => "true".toList
  | .bool false => "false".toList
  | .number numeral => numeral
  | .string text => quoted text
  | .array items => '[' :: (commaJoined (printItems items) ++ [']'])
  | .object members => '\x7b' :: (commaJoined (printMembers members) ++ ['\x7d'])

/-- The texts of the items of an array. -/
def printItems : List Json → List (List Char)
  | [] => []
  | item :: items => print item :: printItems items

/-- The text of a member of an object. -/
def printMember : List Char × Json → List Char
  | (key, value) => quoted key ++ ':' :: print value

/-- The texts of the members of an object. -/
def printMembers : List (List Char × Json) → List (List Char)
  | [] => []
  | member :: members => printMember member :: printMembers members

end

/-! ## Reading -/

/-- A blank between tokens. -/
def isBlank (c : Char) : Bool := c.toNat = 32 || c.toNat = 9 || c.toNat = 10 || c.toNat = 13

/-- Blanks are skipped. -/
def skipBlanks (text : List Char) : List Char := text.dropWhile isBlank

/-- Four hexadecimal digits. -/
def hexUnit : List Char → Option (Nat × List Char)
  | a :: b :: c :: d :: rest => do
    let digits ← [a, b, c, d].mapM hexValue
    some (readDigits 16 digits, rest)
  | _ => none

/-- The character of an escape, after its backslash; one beyond the first plane takes a pair. -/
def unescape : List Char → Option (Char × List Char)
  | 'u' :: rest => do
    let (unit, rest) ← hexUnit rest
    if 0xD800 ≤ unit ∧ unit < 0xDC00 then
      match rest with
      | '\x5c' :: 'u' :: rest => do
        let (low, rest) ← hexUnit rest
        if 0xDC00 ≤ low ∧ low < 0xE000 then
          some (Char.ofNat (0x10000 + (unit - 0xD800) * 0x400 + (low - 0xDC00)), rest)
        else none
      | _ => none
    else if 0xDC00 ≤ unit ∧ unit < 0xE000 then none
    else some (Char.ofNat unit, rest)
  | c :: rest =>
    if c = quote ∨ c = backslash ∨ c = '/' then some (c, rest)
    else if c = 'b' then some (Char.ofNat 8, rest)
    else if c = 't' then some (Char.ofNat 9, rest)
    else if c = 'n' then some (Char.ofNat 10, rest)
    else if c = 'f' then some (Char.ofNat 12, rest)
    else if c = 'r' then some (Char.ofNat 13, rest)
    else none
  | [] => none

/-- The rest of a string, after its first quote. -/
def stringBody : Nat → List Char → Option (List Char × List Char)
  | 0, _ => none
  | _ + 1, [] => none
  | fuel + 1, c :: rest =>
    if c = quote then some ([], rest)
    else if c = backslash then (unescape rest).bind fun decoded =>
      (stringBody fuel decoded.2).map fun read => (decoded.1 :: read.1, read.2)
    else if c.toNat < 32 then none
    else (stringBody fuel rest).map fun read => (c :: read.1, read.2)

/-- A character of a numeral. -/
def ofNumeral (c : Char) : Bool := c.isDigit || c = '-' || c = '+' || c = '.' || c = 'e' || c = 'E'

/-- One digit or more, and nothing else. -/
def allDigits (text : List Char) : Bool := !text.isEmpty && text.all Char.isDigit

/-- What follows the integer part of a numeral: a fraction, an exponent. -/
def isTail (text : List Char) : Bool :=
  let exponent (text : List Char) : Bool := match text with
    | [] => true
    | c :: rest => (c = 'e' || c = 'E') && match rest with
      | '-' :: digits => allDigits digits
      | '+' :: digits => allDigits digits
      | digits => allDigits digits
  match text with
  | '.' :: rest => !(rest.takeWhile Char.isDigit).isEmpty && exponent (rest.dropWhile Char.isDigit)
  | rest => exponent rest

/-- A numeral: no leading zeros in its integer part. -/
def isNumeral (text : List Char) : Bool :=
  let unsigned := match text with
    | '-' :: rest => rest
    | rest => rest
  let integer := unsigned.takeWhile Char.isDigit
  text.all ofNumeral && !integer.isEmpty && (integer.length = 1 || integer.head? != some '0') &&
    isTail (unsigned.dropWhile Char.isDigit)

/-- Items with commas between them, up to what closes them. -/
def items {α : Type} (item : List Char → Option (α × List Char)) (close : Char) :
    Nat → List Char → Option (List α × List Char)
  | 0, _ => none
  | fuel + 1, text => do
    let (first, rest) ← item text
    match skipBlanks rest with
    | c :: rest =>
      if c = ',' then do
        let (others, rest) ← items item close fuel rest
        some (first :: others, rest)
      else if c = close then some ([first], rest)
      else none
    | [] => none

/-- None, or items. -/
def bracketed {α : Type} (item : List Char → Option (α × List Char)) (close : Char)
    (text : List Char) : Option (List α × List Char) :=
  match skipBlanks text with
  | c :: rest => if c = close then some ([], rest) else items item close text.length text
  | [] => none

/-- A member of an object; how its value is read may depend on the key. -/
def readMember {α : Type} (value : List Char → List Char → Option (α × List Char))
    (text : List Char) : Option ((List Char × α) × List Char) :=
  match skipBlanks text with
  | c :: rest =>
    if c = quote then do
      let (key, rest) ← stringBody (rest.length + 1) rest
      match skipBlanks rest with
      | ':' :: rest => do
        let (held, rest) ← value key rest
        some ((key, held), rest)
      | _ => none
    else none
  | [] => none

/-- The literal names. -/
def literals : List (List Char × Json) :=
  [("null".toList, .null), ("true".toList, .bool true), ("false".toList, .bool false)]

/-- A literal name or a number. -/
def readScalar (text : List Char) : Option (Json × List Char) :=
  match literals.find? fun literal => literal.1.isPrefixOf text with
  | some literal => some (literal.2, text.drop literal.1.length)
  | none =>
    let numeral := text.takeWhile ofNumeral
    if isNumeral numeral then some (.number numeral, text.drop numeral.length) else none

/-- A value at the front of a text, nested no deeper than so much. -/
def readValue (depth : Nat) (text : List Char) : Option (Json × List Char) :=
  match skipBlanks text with
  | [] => none
  | c :: rest =>
    if c = quote then (stringBody (rest.length + 1) rest).map fun read => (.string read.1, read.2)
    else if c = '[' then match depth with
      | 0 => none
      | depth + 1 =>
        (bracketed (readValue depth) ']' rest).map fun read => (.array read.1, read.2)
    else if c = '\x7b' then match depth with
      | 0 => none
      | depth + 1 =>
        (bracketed (readMember fun _ => readValue depth) '\x7d' rest).map fun read =>
          (.object read.1, read.2)
    else readScalar (c :: rest)

/-- A whole text: one value, and blanks. -/
def parse (depth : Nat) (text : List Char) : Option Json := do
  let (json, rest) ← readValue depth text
  if skipBlanks rest = [] then some json else none

/-! ## What is written is read back -/

/-- A character under a backslash. -/
theorem stringBody_backslash {fuel : Nat} {c : Char} {escaped rest : List Char}
    (read : unescape (escaped ++ rest) = some (c, rest)) :
    stringBody (fuel + 1) (backslash :: (escaped ++ rest)) =
      (stringBody fuel rest).map fun read => (c :: read.1, read.2) := by
  have unquoted : backslash ≠ quote := by decide
  rw [stringBody, if_neg unquoted, if_pos rfl, read]
  rfl

/-- A control character by its code. -/
theorem unescape_control {code : Nat} (low : code < 32) (rest : List Char) :
    unescape ('u' :: '0' :: '0' :: Nat.digitChar (code / 16) :: Nat.digitChar (code % 16) :: rest) =
      some (Char.ofNat code, rest) := by
  have high : hexValue (Nat.digitChar (code / 16)) = some (code / 16) :=
    hexValue_digitChar _ (by omega)
  have last : hexValue (Nat.digitChar (code % 16)) = some (code % 16) :=
    hexValue_digitChar _ (by omega)
  have zero : hexValue '0' = some 0 := by decide
  have value : readDigits 16 [0, 0, code / 16, code % 16] = code := by
    simp only [readDigits, List.foldl_cons, List.foldl_nil]
    omega
  have unit :
      hexUnit ('0' :: '0' :: Nat.digitChar (code / 16) :: Nat.digitChar (code % 16) :: rest) =
        some (code, rest) := by
    simp only [hexUnit, List.mapM_cons, List.mapM_nil, zero, high, last, Option.bind_eq_bind,
      Option.bind_some, Option.pure_def, value]
  have plain : ¬ (0xD800 ≤ code ∧ code < 0xDC00) := by omega
  have single : ¬ (0xDC00 ≤ code ∧ code < 0xE000) := by omega
  simp only [unescape, unit, Option.bind_eq_bind, Option.bind_some, if_neg plain, if_neg single]

/-- Reading a character as it is written. -/
theorem stringBody_escape (fuel : Nat) (c : Char) (rest : List Char) :
    stringBody (fuel + 1) (escape c ++ rest) =
      (stringBody fuel rest).map fun read => (c :: read.1, read.2) := by
  have code : Char.ofNat c.toNat = c := Char.ofNat_toNat c
  unfold escape
  by_cases isQuote : c = quote
  · rw [if_pos isQuote]
    exact stringBody_backslash (by rw [isQuote]; rfl)
  rw [if_neg isQuote]
  by_cases isBackslash : c = backslash
  · rw [if_pos isBackslash]
    exact stringBody_backslash (by rw [isBackslash]; rfl)
  rw [if_neg isBackslash]
  by_cases backspace : c.toNat = 8
  · rw [if_pos backspace]
    exact stringBody_backslash (by rw [← code, backspace]; rfl)
  rw [if_neg backspace]
  by_cases tab : c.toNat = 9
  · rw [if_pos tab]
    exact stringBody_backslash (by rw [← code, tab]; rfl)
  rw [if_neg tab]
  by_cases newline : c.toNat = 10
  · rw [if_pos newline]
    exact stringBody_backslash (by rw [← code, newline]; rfl)
  rw [if_neg newline]
  by_cases feed : c.toNat = 12
  · rw [if_pos feed]
    exact stringBody_backslash (by rw [← code, feed]; rfl)
  rw [if_neg feed]
  by_cases carriage : c.toNat = 13
  · rw [if_pos carriage]
    exact stringBody_backslash (by rw [← code, carriage]; rfl)
  rw [if_neg carriage]
  by_cases low : c.toNat < 32
  · rw [if_pos low]
    have control := unescape_control low rest
    rw [code] at control
    exact stringBody_backslash control
  · rw [if_neg low, List.singleton_append, stringBody, if_neg isQuote, if_neg isBackslash,
      if_neg low]

/-- Every character is written. -/
theorem escape_ne_nil (c : Char) : escape c ≠ [] := by
  have either : ∀ {p : Prop} [Decidable p] {left right : List Char}, left ≠ [] → right ≠ [] →
      (if p then left else right) ≠ [] := by
    intro p _ left right isLeft isRight
    split
    · exact isLeft
    · exact isRight
  unfold escape
  repeat refine either (List.cons_ne_nil _ _) ?_
  exact List.cons_ne_nil c []

/-- A written string is no shorter than its text. -/
theorem length_flatMap_escape (text : List Char) : text.length ≤ (text.flatMap escape).length := by
  induction text with
  | nil => exact Nat.le_refl 0
  | cons c text ih =>
    have one := List.length_pos_of_ne_nil (escape_ne_nil c)
    rw [List.flatMap_cons, List.length_append, List.length_cons]
    omega

/-- A string in quotes, after its first. -/
theorem stringBody_quoted {fuel : Nat} {text : List Char} (enough : text.length < fuel)
    (rest : List Char) :
    stringBody fuel (text.flatMap escape ++ quote :: rest) = some (text, rest) := by
  induction text generalizing fuel with
  | nil =>
    cases fuel with
    | zero => exact absurd enough (Nat.not_lt_zero 0)
    | succ fuel => rw [List.flatMap_nil, List.nil_append, stringBody, if_pos rfl]
  | cons c text ih =>
    cases fuel with
    | zero => exact absurd enough (Nat.not_lt_zero _)
    | succ fuel =>
      have shorter : text.length < fuel := Nat.lt_of_succ_lt_succ enough
      rw [List.flatMap_cons, List.append_assoc, stringBody_escape, ih shorter]
      rfl

/-- No blank is skipped where there is none. -/
theorem skipBlanks_cons {c : Char} (visible : isBlank c = false) (rest : List Char) :
    skipBlanks (c :: rest) = c :: rest :=
  List.dropWhile_cons_of_neg (by rw [visible]; exact Bool.false_ne_true)

/-- What comes next does not go on with a numeral. -/
def Delimited (rest : List Char) : Prop := ∀ c ∈ rest.head?, ofNumeral c = false

/-- A text that an item reader reads back wherever it ends, and that starts like an item. -/
structure Reads {α : Type} (item : List Char → Option (α × List Char)) (close : Char)
    (text : List Char) (value : α) : Prop where
  /-- It is read to its end. -/
  read : ∀ rest, Delimited rest → item (text ++ rest) = some (value, rest)
  /-- It starts with neither a blank nor what closes the items. -/
  starts : ∃ c more, text = c :: more ∧ isBlank c = false ∧ c ≠ close

section

variable {α : Type} {item : List Char → Option (α × List Char)} {close : Char}
  {shown : α → List Char}

/-- A text with items joined is no shorter than their number. -/
theorem length_commaJoined {values : List α}
    (reads : ∀ value ∈ values, Reads item close (shown value) value) :
    values.length ≤ (commaJoined (values.map shown)).length := by
  induction values with
  | nil => exact Nat.le_refl 0
  | cons first others ih =>
    rw [List.forall_mem_cons] at reads
    obtain ⟨c, more, starts, -, -⟩ := reads.1.starts
    have rest := ih reads.2
    have long : 1 ≤ (shown first).length := by
      rw [starts, List.length_cons]
      omega
    cases others with
    | nil => exact long
    | cons second others =>
      have shape : commaJoined ((first :: second :: others).map shown) =
          shown first ++ ',' :: commaJoined ((second :: others).map shown) := rfl
      have sizes : (commaJoined ((first :: second :: others).map shown)).length =
          (shown first).length + ((commaJoined ((second :: others).map shown)).length + 1) := by
        rw [shape, List.length_append, List.length_cons]
      have count : (first :: second :: others).length = (second :: others).length + 1 := rfl
      omega

/-- One item or more. -/
theorem items_commaJoined (visible : isBlank close = false) (apart : close ≠ ',')
    (ends : ofNumeral close = false) {values : List α} (some_ : values ≠ []) {fuel : Nat}
    (enough : values.length ≤ fuel)
    (reads : ∀ value ∈ values, Reads item close (shown value) value) (rest : List Char) :
    items item close fuel (commaJoined (values.map shown) ++ close :: rest) =
      some (values, rest) := by
  induction values generalizing fuel with
  | nil => exact absurd rfl some_
  | cons first others ih =>
    rw [List.forall_mem_cons] at reads
    cases fuel with
    | zero => contradiction
    | succ fuel =>
      cases others with
      | nil =>
        have delimited : Delimited (close :: rest) := by
          intro c head
          obtain rfl := Option.some.inj head
          exact ends
        have one := reads.1.read (close :: rest) delimited
        rw [List.map_singleton, commaJoined, items, one]
        simp only [Option.bind_eq_bind, Option.bind_some, skipBlanks_cons visible, if_neg apart,
          if_true]
      | cons second others =>
        have shape : commaJoined ((first :: second :: others).map shown) ++ close :: rest =
            shown first ++
              ',' :: (commaJoined ((second :: others).map shown) ++ close :: rest) := by
          simp only [List.map_cons, commaJoined, List.append_assoc, List.cons_append]
        have delimited : ∀ more, Delimited (',' :: more) := by
          intro more c head
          obtain rfl := Option.some.inj head
          decide
        have one := reads.1.read _ (delimited (commaJoined ((second :: others).map shown) ++
          close :: rest))
        have later := ih (List.cons_ne_nil second others) (Nat.le_of_succ_le_succ enough) reads.2
        have comma : isBlank ',' = false := by decide
        rw [shape, items, one]
        simp only [Option.bind_eq_bind, Option.bind_some, skipBlanks_cons comma, if_true, later]

/-- Brackets around any number of items. -/
theorem bracketed_commaJoined (visible : isBlank close = false) (apart : close ≠ ',')
    (ends : ofNumeral close = false) {values : List α}
    (reads : ∀ value ∈ values, Reads item close (shown value) value) (rest : List Char) :
    bracketed item close (commaJoined (values.map shown) ++ close :: rest) =
      some (values, rest) := by
  cases values with
  | nil =>
    rw [List.map_nil, commaJoined, List.nil_append, bracketed, skipBlanks_cons visible]
    exact if_pos rfl
  | cons first others =>
    obtain ⟨c, more, starts, shownFirst, open_⟩ := (reads first List.mem_cons_self).starts
    have enough : (first :: others).length ≤
        (commaJoined ((first :: others).map shown) ++ close :: rest).length := by
      have long := length_commaJoined reads
      rw [List.length_append]
      omega
    have head : ∃ tail, commaJoined ((first :: others).map shown) ++ close :: rest = c :: tail := by
      cases others with
      | nil =>
        have shape : commaJoined ([first].map shown) = shown first := rfl
        rw [shape, starts]
        exact ⟨_, rfl⟩
      | cons second others =>
        have shape : commaJoined ((first :: second :: others).map shown) =
            shown first ++ ',' :: commaJoined ((second :: others).map shown) := rfl
        rw [shape, starts]
        exact ⟨_, rfl⟩
    have read :=
      items_commaJoined visible apart ends (List.cons_ne_nil first others) enough reads rest
    obtain ⟨tail, head⟩ := head
    rw [bracketed]
    rw [head] at read ⊢
    simp only [skipBlanks_cons shownFirst, if_neg open_, read]

end

/-- Nested no deeper than so much, and its numbers are numerals. -/
def Proper : Nat → Json → Prop
  | _, .null => True
  | _, .bool _ => True
  | _, .number numeral => isNumeral numeral = true
  | _, .string _ => True
  | 0, .array _ => False
  | 0, .object _ => False
  | depth + 1, .array items => ∀ item ∈ items, Proper depth item
  | depth + 1, .object members => ∀ member ∈ members, Proper depth member.2

/-- The characters of numerals are apart from those that other tokens start with. -/
theorem toNat_of_ofNumeral {c : Char} (ofNumeral_ : ofNumeral c = true) :
    (43 ≤ c.toNat ∧ c.toNat ≤ 57 ∧ c.toNat ≠ 44) ∨ c.toNat = 69 ∨ c.toNat = 101 := by
  simp only [ofNumeral, Bool.or_eq_true, decide_eq_true_eq] at ofNumeral_
  rcases ofNumeral_ with ((((digit | rfl) | rfl) | rfl) | rfl) | rfl
  · have range : 48 ≤ c.toNat ∧ c.toNat ≤ 57 := by
      simp only [Char.isDigit, Bool.and_eq_true, decide_eq_true_eq, ge_iff_le] at digit
      exact digit
    omega
  all_goals decide

/-- A numeral that is followed by none of its characters. -/
theorem readScalar_numeral {numeral rest : List Char} (proper : isNumeral numeral = true)
    (delimited : Delimited rest) :
    readScalar (numeral ++ rest) = some (.number numeral, rest) := by
  have parts := proper
  simp only [isNumeral, Bool.and_eq_true, List.all_eq_true] at parts
  have all : ∀ c ∈ numeral, ofNumeral c = true := parts.1.1.1
  have unnamed : literals.find? (fun literal => literal.1.isPrefixOf (numeral ++ rest)) = none := by
    cases numeral with
    | nil => contradiction
    | cons c more =>
      have first : ofNumeral c = true := all c List.mem_cons_self
      have apart : ∀ letter name, ofNumeral letter = false →
          ¬ (letter :: name).isPrefixOf (c :: more ++ rest) = true := by
        intro letter name other named
        rw [List.cons_append, List.isPrefixOf_cons_cons, Bool.and_eq_true, beq_iff_eq] at named
        rw [named.1, first] at other
        contradiction
      rw [List.find?_eq_none]
      refine List.forall_mem_cons.mpr ⟨apart 'n' _ (by decide), ?_⟩
      refine List.forall_mem_cons.mpr ⟨apart 't' _ (by decide), ?_⟩
      exact List.forall_mem_singleton.mpr (apart 'f' _ (by decide))
  have run : (numeral ++ rest).takeWhile ofNumeral = numeral := takeWhile_run all delimited
  simp only [readScalar, unnamed, run, proper, if_true, List.drop_left]

/-- Reading a token by its first character. -/
theorem readValue_scalar {depth : Nat} {c : Char} {rest : List Char} (visible : isBlank c = false)
    (unquoted : c ≠ quote) (unbracketed : c ≠ '[') (unbraced : c ≠ '\x7b') :
    readValue depth (c :: rest) = readScalar (c :: rest) := by
  cases depth <;>
    simp only [readValue, skipBlanks_cons visible, if_neg unquoted, if_neg unbracketed,
      if_neg unbraced]

/-- A string in quotes is read as its text. -/
theorem readValue_quoted (depth : Nat) (text rest : List Char) :
    readValue depth (quoted text ++ rest) = some (.string text, rest) := by
  have visible : isBlank quote = false := by decide
  have enough : text.length < (text.flatMap escape ++ quote :: rest).length + 1 := by
    have long := length_flatMap_escape text
    rw [List.length_append]
    omega
  have shape : quoted text ++ rest = quote :: (text.flatMap escape ++ quote :: rest) := by
    simp only [quoted, List.cons_append, List.append_assoc, List.nil_append]
  rw [shape]
  cases depth <;>
    simp only [readValue, skipBlanks_cons visible, if_true, stringBody_quoted enough,
      Option.map_some]

/-- A member of an object is read as it is written. -/
theorem readMember_print {α : Type} {value : List Char → List Char → Option (α × List Char)}
    {key : List Char} {json : Json} {held : α}
    (reads : ∀ rest, Delimited rest → value key (print json ++ rest) = some (held, rest))
    (rest : List Char) (delimited : Delimited rest) :
    readMember value (printMember (key, json) ++ rest) = some ((key, held), rest) := by
  have visible : isBlank quote = false := by decide
  have colon : isBlank ':' = false := by decide
  have enough :
      key.length < (key.flatMap escape ++ quote :: ':' :: (print json ++ rest)).length + 1 := by
    have long := length_flatMap_escape key
    rw [List.length_append]
    omega
  have shape : printMember (key, json) ++ rest =
      quote :: (key.flatMap escape ++ quote :: ':' :: (print json ++ rest)) := by
    simp only [printMember, quoted, List.cons_append, List.append_assoc, List.nil_append]
  rw [shape]
  simp only [readMember, skipBlanks_cons visible, if_true, stringBody_quoted enough,
    Option.bind_eq_bind, Option.bind_some, skipBlanks_cons colon, reads rest delimited]

/-- The texts of items and members, one by one. -/
theorem printItems_eq (items : List Json) : printItems items = items.map print := by
  induction items with
  | nil => rfl
  | cons item items ih => rw [printItems, ih, List.map_cons]

/-- The texts of members, one by one. -/
theorem printMembers_eq (members : List (List Char × Json)) :
    printMembers members = members.map printMember := by
  induction members with
  | nil => rfl
  | cons member members ih => rw [printMembers, ih, List.map_cons]

/-- A closing bracket. -/
def Closes (close : Char) : Prop := close = ']' ∨ close = '\x7d'

/-- A character that closes nothing is not the bracket that closes. -/
theorem Closes.apart {close c : Char} (closes : Closes close) (notBracket : c ≠ ']')
    (notBrace : c ≠ '\x7d') : c ≠ close := by
  rcases closes with rfl | rfl
  · exact notBracket
  · exact notBrace

/-- A character that starts no other token and closes nothing starts a scalar. -/
def startsScalar (c : Char) : Bool :=
  !isBlank c && c != quote && c != '[' && c != '\x7b' && c != ']' && c != '\x7d'

/-- A text that starts like a scalar is read as one. -/
theorem reads_of_scalar {close : Char} (closes : Closes close) (depth : Nat) {c : Char}
    {more : List Char} {json : Json} (starts : startsScalar c = true)
    (read : ∀ rest, Delimited rest → readScalar (c :: more ++ rest) = some (json, rest)) :
    Reads (readValue depth) close (c :: more) json := by
  simp only [startsScalar, Bool.and_eq_true, Bool.not_eq_true', bne_iff_ne] at starts
  obtain ⟨⟨⟨⟨⟨visible, unquoted⟩, unbracketed⟩, unbraced⟩, notBracket⟩, notBrace⟩ := starts
  refine ⟨?_, c, more, rfl, visible, closes.apart notBracket notBrace⟩
  intro rest delimited
  rw [List.cons_append, readValue_scalar visible unquoted unbracketed unbraced, ← List.cons_append]
  exact read rest delimited

/-- A character of a numeral starts a scalar. -/
theorem startsScalar_ofNumeral {c : Char} (numeral : ofNumeral c = true) :
    startsScalar c = true := by
  have range := toNat_of_ofNumeral numeral
  have unlike : ∀ other : Char, (other.toNat < 43 ∨ 57 < other.toNat ∧ other.toNat ≠ 69 ∧
      other.toNat ≠ 101) → c ≠ other := by
    intro other outside same
    rw [same] at range
    omega
  have visible : isBlank c = false := by
    simp only [isBlank, Bool.or_eq_false_iff, decide_eq_false_iff_not]
    omega
  simp only [startsScalar, Bool.and_eq_true, Bool.not_eq_true', bne_iff_ne]
  exact ⟨⟨⟨⟨⟨visible, unlike _ (by decide)⟩, unlike _ (by decide)⟩, unlike _ (by decide)⟩,
    unlike _ (by decide)⟩, unlike _ (by decide)⟩

/-- What is neither an array nor an object is read as it is written. -/
theorem reads_scalar {close : Char} (closes : Closes close) {depth : Nat} {json : Json}
    (unlisted : ∀ items, json ≠ .array items) (unkeyed : ∀ members, json ≠ .object members)
    (proper : Proper depth json) : Reads (readValue depth) close (print json) json := by
  cases json with
  | null => exact reads_of_scalar closes depth (c := 'n') (by decide) fun _ _ => rfl
  | bool flag =>
    cases flag with
    | true => exact reads_of_scalar closes depth (c := 't') (by decide) fun _ _ => rfl
    | false => exact reads_of_scalar closes depth (c := 'f') (by decide) fun _ _ => rfl
  | number numeral =>
    have numeral_ : isNumeral numeral = true := by
      cases depth <;> exact proper
    cases numeral with
    | nil => contradiction
    | cons c more =>
      have parts := numeral_
      simp only [isNumeral, Bool.and_eq_true, List.all_eq_true] at parts
      have first : ofNumeral c = true := parts.1.1.1 c List.mem_cons_self
      exact reads_of_scalar closes depth (startsScalar_ofNumeral first) fun rest delimited =>
        readScalar_numeral numeral_ delimited
  | string text =>
    exact ⟨fun rest _ => readValue_quoted depth text rest, quote, _, rfl, by decide,
      closes.apart (by decide) (by decide)⟩
  | array items => exact absurd rfl (unlisted items)
  | object members => exact absurd rfl (unkeyed members)

/-- A value is read as it is written, wherever it stands. -/
theorem reads_print {close : Char} (closes : Closes close) {depth : Nat} {json : Json}
    (proper : Proper depth json) : Reads (readValue depth) close (print json) json := by
  induction depth generalizing json close with
  | zero =>
    cases json with
    | array items => exact proper.elim
    | object members => exact proper.elim
    | _ => exact reads_scalar closes (by simp) (by simp) proper
  | succ depth ih =>
    cases json with
    | array items =>
      refine ⟨?_, '[', _, rfl, by decide, closes.apart (by decide) (by decide)⟩
      intro rest _
      have inside : ∀ item ∈ items, Reads (readValue depth) ']' (print item) item :=
        fun item member => ih (Or.inl rfl) (proper item member)
      have shape : print (.array items) ++ rest =
          '[' :: (commaJoined (items.map print) ++ ']' :: rest) := by
        simp only [print, printItems_eq, List.cons_append, List.append_assoc, List.nil_append]
      have read := bracketed_commaJoined (by decide) (by decide) (by decide) inside rest
      have visible : isBlank '[' = false := by decide
      have unquoted : '[' ≠ quote := by decide
      rw [shape]
      simp only [readValue, skipBlanks_cons visible, if_neg unquoted, if_true, read,
        Option.map_some]
    | object members =>
      refine ⟨?_, '\x7b', _, rfl, by decide, closes.apart (by decide) (by decide)⟩
      intro rest _
      have inside : ∀ member ∈ members,
          Reads (readMember fun _ => readValue depth) '\x7d' (printMember member) member := by
        intro member here
        have value := ih (Or.inr rfl) (proper member here)
        obtain ⟨key, json⟩ := member
        exact ⟨fun rest delimited => readMember_print value.read rest delimited, quote, _, rfl,
          by decide, by decide⟩
      have shape : print (.object members) ++ rest =
          '\x7b' :: (commaJoined (members.map printMember) ++ '\x7d' :: rest) := by
        simp only [print, printMembers_eq, List.cons_append, List.append_assoc, List.nil_append]
      have read := bracketed_commaJoined (by decide) (by decide) (by decide) inside rest
      have visible : isBlank '\x7b' = false := by decide
      have unquoted : '\x7b' ≠ quote := by decide
      have unbracketed : '\x7b' ≠ '[' := by decide
      rw [shape]
      simp only [readValue, skipBlanks_cons visible, if_neg unquoted, if_neg unbracketed, if_true,
        read, Option.map_some]
    | _ => exact reads_scalar closes (by simp) (by simp) proper

/-- A written value is parsed. -/
theorem parse_print {depth : Nat} {json : Json} (proper : Proper depth json) :
    parse depth (print json) = some json := by
  have ends : Delimited [] := by
    intro c first
    cases first
  have read := (reads_print (Or.inl rfl) proper).read [] ends
  rw [List.append_nil] at read
  have nothing : skipBlanks [] = [] := rfl
  simp only [parse, read, Option.bind_eq_bind, Option.bind_some, nothing, if_true]

/-! ## How long a text is -/

/-- A character of one byte that is written as it is. -/
def isPlain (c : Char) : Bool := 32 ≤ c.toNat && c.toNat < 128 && c != quote && c != backslash

/-- A plain character is not escaped. -/
theorem escape_plain {c : Char} (plain : isPlain c = true) : escape c = [c] := by
  simp only [isPlain, Bool.and_eq_true, decide_eq_true_eq, bne_iff_ne] at plain
  obtain ⟨⟨⟨printed, -⟩, unquoted⟩, unescaped⟩ := plain
  unfold escape
  rw [if_neg unquoted, if_neg unescaped, if_neg (by omega), if_neg (by omega), if_neg (by omega),
    if_neg (by omega), if_neg (by omega), if_neg (by omega)]

/-- A plain character takes one byte. -/
theorem utf8Size_plain {c : Char} (plain : isPlain c = true) : c.utf8Size = 1 := by
  simp only [isPlain, Bool.and_eq_true, decide_eq_true_eq] at plain
  have ascii : c.toNat ≤ 127 := by omega
  exact Char.utf8Size_eq_one_iff.mpr ascii

/-- A plain text has as many bytes as characters. -/
theorem utf8Len_plain {text : List Char} (plain : ∀ c ∈ text, isPlain c = true) :
    String.utf8Len text = text.length := by
  induction text with
  | nil => rfl
  | cons c text ih =>
    rw [List.forall_mem_cons] at plain
    rw [String.utf8Len_cons, ih plain.2, utf8Size_plain plain.1, List.length_cons]

/-- A plain text in quotes. -/
theorem utf8Len_quoted {text : List Char} (plain : ∀ c ∈ text, isPlain c = true) :
    String.utf8Len (quoted text) = text.length + 2 := by
  have unescaped : text.flatMap escape = text := by
    induction text with
    | nil => rfl
    | cons c text ih =>
      rw [List.forall_mem_cons] at plain
      rw [List.flatMap_cons, escape_plain plain.1, ih plain.2, List.singleton_append]
  have mark : quote.utf8Size = 1 := rfl
  rw [quoted, unescaped, String.utf8Len_cons, String.utf8Len_append, utf8Len_plain plain,
    String.utf8Len_cons, String.utf8Len_nil, mark]

/-- Texts with a comma between each two. -/
theorem utf8Len_commaJoined (texts : List (List Char)) :
    String.utf8Len (commaJoined texts) = (texts.map String.utf8Len).sum + (texts.length - 1) := by
  induction texts with
  | nil => rfl
  | cons first others ih =>
    cases others with
    | nil => simp [commaJoined]
    | cons second others =>
      have comma : ','.utf8Size = 1 := rfl
      rw [commaJoined, String.utf8Len_append, String.utf8Len_cons, ih, comma]
      · simp only [List.map_cons, List.sum_cons, List.length_cons]
        omega
      · exact List.cons_ne_nil second others

/-- An array: its items, commas and brackets. -/
theorem utf8Len_array (items : List Json) : String.utf8Len (print (.array items)) =
    (items.map fun item => String.utf8Len (print item)).sum + (items.length - 1) + 2 := by
  have open_ : '['.utf8Size = 1 := rfl
  have close_ : ']'.utf8Size = 1 := rfl
  rw [print, printItems_eq, String.utf8Len_cons, String.utf8Len_append, utf8Len_commaJoined,
    List.map_map, List.length_map, String.utf8Len_cons, String.utf8Len_nil, open_, close_]
  rfl

/-- An object with plain keys: its members, commas and braces. -/
theorem utf8Len_object {members : List (List Char × Json)}
    (plain : members.all (fun member => member.1.all isPlain) = true) :
    String.utf8Len (print (.object members)) =
      (members.map fun member => member.1.length + 3 + String.utf8Len (print member.2)).sum +
        (members.length - 1) + 2 := by
  have open_ : '\x7b'.utf8Size = 1 := rfl
  have close_ : '\x7d'.utf8Size = 1 := rfl
  have colon : ':'.utf8Size = 1 := rfl
  have each : members.map (fun member => String.utf8Len (printMember member)) =
      members.map fun member => member.1.length + 3 + String.utf8Len (print member.2) := by
    refine List.map_congr_left fun member here => ?_
    have key : ∀ c ∈ member.1, isPlain c = true :=
      List.all_eq_true.mp (List.all_eq_true.mp plain member here)
    rw [printMember, String.utf8Len_append, utf8Len_quoted key, String.utf8Len_cons, colon]
    omega
  rw [print, printMembers_eq, String.utf8Len_cons, String.utf8Len_append, utf8Len_commaJoined,
    List.map_map, List.length_map, String.utf8Len_cons, String.utf8Len_nil, open_, close_, ← each]
  rfl

/-! ## One line -/

/-- A character that a line may have inside. -/
def Printable (text : List Char) : Prop := ∀ c ∈ text, 32 ≤ c.toNat

/-- A text whose characters have been gone through. -/
theorem printable_of_all {text : List Char} (all : text.all (fun c => 32 ≤ c.toNat) = true) :
    Printable text := by
  intro c member
  exact of_decide_eq_true (List.all_eq_true.mp all c member)

/-- A digit of a control character's escape. -/
theorem printable_digit {n : Nat} (small : n < 16) : 32 ≤ (Nat.digitChar n).toNat := by
  have all_ : ∀ n < 16, 32 ≤ (Nat.digitChar n).toNat := by decide
  exact all_ n small

/-- Control characters are escaped. -/
theorem printable_escape (c : Char) : Printable (escape c) := by
  have two : ∀ first second : Char, 32 ≤ first.toNat → 32 ≤ second.toNat →
      Printable [first, second] := by
    intro first second one other
    exact List.forall_mem_cons.mpr ⟨one, List.forall_mem_singleton.mpr other⟩
  unfold escape
  -- Seven characters have an escape of their own.
  iterate 7
    split
    · exact two _ _ (by decide) (by decide)
  split
  · rename_i low
    refine List.forall_mem_cons.mpr ⟨by decide, List.forall_mem_cons.mpr ⟨by decide, ?_⟩⟩
    refine List.forall_mem_cons.mpr ⟨by decide, List.forall_mem_cons.mpr ⟨by decide, ?_⟩⟩
    exact List.forall_mem_cons.mpr ⟨printable_digit (by omega),
      List.forall_mem_singleton.mpr (printable_digit (by omega))⟩
  · rename_i high
    exact List.forall_mem_singleton.mpr (Nat.le_of_not_lt high)

/-- A string is one line, whatever it holds. -/
theorem printable_quoted (text : List Char) : Printable (quoted text) := by
  intro c member
  rcases List.mem_cons.mp member with rfl | inside
  · decide
  · rcases List.mem_append.mp inside with inside | last
    · obtain ⟨source, -, escaped⟩ := List.mem_flatMap.mp inside
      exact printable_escape source c escaped
    · rw [List.mem_singleton.mp last]
      decide

/-- Items with commas between them. -/
theorem printable_commaJoined {texts : List (List Char)}
    (each : ∀ text ∈ texts, Printable text) : Printable (commaJoined texts) := by
  fun_induction commaJoined texts with
  | case1 => intro c member; contradiction
  | case2 text => exact each text List.mem_cons_self
  | case3 text texts _ ih =>
    obtain ⟨first, others⟩ := List.forall_mem_cons.mp each
    intro c member
    rcases List.mem_append.mp member with inside | later
    · exact first c inside
    · rcases List.mem_cons.mp later with rfl | inside
      · decide
      · exact ih others c inside

/-- A numeral is one line. -/
theorem printable_numeral {numeral : List Char} (proper : isNumeral numeral = true) :
    Printable numeral := by
  intro c member
  simp only [isNumeral, Bool.and_eq_true, List.all_eq_true] at proper
  have range := toNat_of_ofNumeral (proper.1.1.1 c member)
  omega

/-- What is neither an array nor an object is one line. -/
theorem printable_scalar {depth : Nat} {json : Json} (unlisted : ∀ items, json ≠ .array items)
    (unkeyed : ∀ members, json ≠ .object members) (proper : Proper depth json) :
    Printable (print json) := by
  cases json with
  | null => exact printable_of_all rfl
  | bool flag => cases flag <;> exact printable_of_all rfl
  | number numeral =>
    have numeral_ : isNumeral numeral = true := by
      cases depth <;> exact proper
    exact printable_numeral numeral_
  | string text => exact printable_quoted text
  | array items => exact absurd rfl (unlisted items)
  | object members => exact absurd rfl (unkeyed members)

/-- What stands between brackets is one line with them. -/
theorem Printable.bracketed {text : List Char} (printable : Printable text) {open_ close : Char}
    (first : 32 ≤ open_.toNat) (last : 32 ≤ close.toNat) :
    Printable (open_ :: (text ++ [close])) := by
  refine List.forall_mem_cons.mpr ⟨first, ?_⟩
  rw [List.forall_mem_append]
  exact ⟨printable, List.forall_mem_singleton.mpr last⟩

/-- A value is written on one line. -/
theorem printable_print {depth : Nat} {json : Json} (proper : Proper depth json) :
    Printable (print json) := by
  induction depth generalizing json with
  | zero =>
    cases json with
    | array items => exact proper.elim
    | object members => exact proper.elim
    | _ => exact printable_scalar (by simp) (by simp) proper
  | succ depth ih =>
    cases json with
    | array items =>
      rw [print, printItems_eq]
      refine Printable.bracketed (printable_commaJoined ?_) (by decide) (by decide)
      intro text member
      obtain ⟨item, here, rfl⟩ := List.mem_map.mp member
      exact ih (proper item here)
    | object members =>
      rw [print, printMembers_eq]
      refine Printable.bracketed (printable_commaJoined ?_) (by decide) (by decide)
      intro text member
      obtain ⟨⟨key, value⟩, here, rfl⟩ := List.mem_map.mp member
      rw [printMember, Printable, List.forall_mem_append, List.forall_mem_cons]
      exact ⟨printable_quoted key, by decide, ih (proper (key, value) here)⟩
    | _ => exact printable_scalar (by simp) (by simp) proper

/-- A character that stands out on a line. -/
def isVisible (c : Char) : Bool := 32 < c.toNat && c.toNat < 127

/-- A text with a visible first and a visible last character. -/
def Trimmed (text : List Char) : Prop :=
  ∃ first last, text.head? = some first ∧ text.getLast? = some last ∧ isVisible first = true ∧
    isVisible last = true

/-- A value starts and ends with visible characters. -/
theorem trimmed_print {depth : Nat} {json : Json} (proper : Proper depth json) :
    Trimmed (print json) := by
  cases json with
  | null => exact ⟨_, _, rfl, rfl, by decide, by decide⟩
  | bool flag => cases flag <;> exact ⟨_, _, rfl, rfl, by decide, by decide⟩
  | number numeral =>
    have numeral_ : isNumeral numeral = true := by
      cases depth <;> exact proper
    have some_ : numeral ≠ [] := by
      rintro rfl
      contradiction
    simp only [isNumeral, Bool.and_eq_true, List.all_eq_true] at numeral_
    have visible : ∀ c ∈ numeral, isVisible c = true := by
      intro c member
      have range := toNat_of_ofNumeral (numeral_.1.1.1 c member)
      simp only [isVisible, Bool.and_eq_true, decide_eq_true_eq]
      omega
    exact ⟨_, _, List.head?_eq_some_head some_, List.getLast?_eq_some_getLast some_,
      visible _ (List.head_mem some_), visible _ (List.getLast_mem some_)⟩
  | string text =>
    refine ⟨quote, quote, rfl, ?_, by decide, by decide⟩
    rw [print, quoted, ← List.cons_append, List.getLast?_concat]
  | array items =>
    refine ⟨'[', ']', rfl, ?_, by decide, by decide⟩
    rw [print, ← List.cons_append, List.getLast?_concat]
  | object members =>
    refine ⟨'\x7b', '\x7d', rfl, ?_, by decide, by decide⟩
    rw [print, ← List.cons_append, List.getLast?_concat]

end Json

end Library
