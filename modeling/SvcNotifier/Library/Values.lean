import SvcNotifier.Library.Json

/-!
# JSON values

What a program keeps of a JSON text. Of an object that it reads by some keys, the other members
are passed over: they need not make sense beyond the grammar, however deep they are nested.
Numerals are read as numbers, which may refuse one or change how it is written; an object is kept
by its keys, in ascending order, with the last of the members that share one.
-/

namespace Library

namespace Json

/-! ## Members that are passed over -/

/-- The rest of a string, after its first quote, whatever its escapes stand for. -/
def skipString : Nat → List Char → Option (List Char)
  | 0, _ => none
  | _ + 1, [] => none
  | fuel + 1, c :: rest =>
    if c = quote then some rest
    else if c = backslash then match rest with
      | 'u' :: rest => (hexUnit rest).bind fun unit => skipString fuel unit.2
      | _ => (unescape rest).bind fun decoded => skipString fuel decoded.2
    else if c.toNat < 32 then none
    else skipString fuel rest

/-- What follows a member of an object, of which nothing is kept. -/
def skipMember (value : List Char → Option (Unit × List Char)) (text : List Char) :
    Option (Unit × List Char) :=
  match skipBlanks text with
  | c :: rest =>
    if c = quote then do
      let rest ← skipString (rest.length + 1) rest
      match skipBlanks rest with
      | ':' :: rest => value rest
      | _ => none
    else none
  | [] => none

/-- What follows a value at the front of a text, nested no deeper than so much. -/
def skipValue (depth : Nat) (text : List Char) : Option (Unit × List Char) :=
  match skipBlanks text with
  | [] => none
  | c :: rest =>
    if c = quote then (skipString (rest.length + 1) rest).map fun rest => ((), rest)
    else if c = '[' then match depth with
      | 0 => none
      | depth + 1 => (bracketed (skipValue depth) ']' rest).map fun read => ((), read.2)
    else if c = '\x7b' then match depth with
      | 0 => none
      | depth + 1 =>
        (bracketed (skipMember (skipValue depth)) '\x7d' rest).map fun read => ((), read.2)
    else (readScalar (c :: rest)).map fun read => ((), read.2)

/-- A member's value, where its key is asked for. No text is nested deeper than it is long. -/
def readAsked (asked : List Char → Bool) (depth : Nat) (key text : List Char) :
    Option (Option Json × List Char) :=
  if asked key then (readValue depth text).map fun read => (some read.1, read.2)
  else (skipValue text.length text).map fun read => (none, read.2)

/-- The members that have a value. -/
def askedMembers (members : List (List Char × Option Json)) : List (List Char × Json) :=
  members.filterMap fun member => member.2.map fun value => (member.1, value)

/-- A whole text of which, where it is an object, only the members under some keys are read. -/
def parseAsked (asked : List Char → Bool) (depth : Nat) (text : List Char) : Option Json :=
  match depth, skipBlanks text with
  | inner + 1, '\x7b' :: rest => do
    let (members, rest) ← bracketed (readMember (readAsked asked inner)) '\x7d' rest
    if skipBlanks rest = [] then some (.object (askedMembers members)) else none
  | _, text => parse depth text

/-- An object with no other members is read whole. -/
theorem parseAsked_print {asked : List Char → Bool} {depth : Nat}
    {members : List (List Char × Json)} (all : ∀ member ∈ members, asked member.1 = true)
    (proper : ∀ member ∈ members, Proper depth member.2) :
    parseAsked asked (depth + 1) (print (.object members)) = some (.object members) := by
  let held : List Char × Json → List Char × Option Json := fun member => (member.1, some member.2)
  let shown : List Char × Option Json → List Char := fun member =>
    printMember (member.1, member.2.getD .null)
  have inside : ∀ member ∈ members.map held,
      Reads (readMember (readAsked asked depth)) '\x7d' (shown member) member := by
    intro _ there
    obtain ⟨⟨key, json⟩, here, rfl⟩ := List.mem_map.mp there
    have value : ∀ rest, Delimited rest →
        readAsked asked depth key (print json ++ rest) = some (some json, rest) := by
      intro rest delimited
      have read := (reads_print (Or.inr rfl) (proper _ here)).read rest delimited
      rw [readAsked, if_pos (all _ here), read]
      rfl
    exact ⟨fun rest delimited => readMember_print value rest delimited, quote, _, rfl, by decide,
      by decide⟩
  have texts : printMembers members = (members.map held).map shown := by
    rw [printMembers_eq, List.map_map]
    rfl
  have same : askedMembers (members.map held) = members := by
    rw [askedMembers, List.filterMap_map]
    exact List.filterMap_some
  have read := bracketed_commaJoined (by decide) (by decide) (by decide) inside []
  have nothing : skipBlanks [] = [] := rfl
  have visible : isBlank '\x7b' = false := by decide
  simp only [parseAsked, print, skipBlanks_cons visible, texts, read, Option.bind_eq_bind,
    Option.bind_some, nothing, if_true, same]

/-! ## What is kept -/

/-- A member goes in among members that ascend by their keys, in place of one with its key. -/
def insertMember (key : List Char) (value : Json) :
    List (List Char × Json) → List (List Char × Json)
  | [] => [(key, value)]
  | (first, held) :: rest =>
    if first < key then (first, held) :: insertMember key value rest
    else if first = key then (key, value) :: rest
    else (key, value) :: (first, held) :: rest

/-- Members in ascending order of their keys, the last of those that share one. -/
def byKey (members : List (List Char × Json)) : List (List Char × Json) :=
  members.foldl (fun kept member => insertMember member.1 member.2 kept) []

section

variable (number : List Char → Option (List Char))

mutual

/-- The value that is kept of a tree, where `number` is how a numeral is read and written again. -/
def keep : Json → Option Json
  | .null => some .null
  | .bool flag => some (.bool flag)
  | .number numeral => (number numeral).map .number
  | .string text => some (.string text)
  | .array items => (keepItems items).map .array
  | .object members => (keepMembers members).map fun kept => .object (byKey kept)

/-- The items of an array. -/
def keepItems : List Json → Option (List Json)
  | [] => some []
  | item :: items => (keep item).bind fun first => (keepItems items).map (first :: ·)

/-- A member of an object. -/
def keepMember : List Char × Json → Option (List Char × Json)
  | (key, value) => (keep value).map fun kept => (key, kept)

/-- The members of an object. -/
def keepMembers : List (List Char × Json) → Option (List (List Char × Json))
  | [] => some []
  | member :: members =>
    (keepMember member).bind fun first => (keepMembers members).map (first :: ·)

end

/-- A value as it is kept: its numerals are as they are written again, and its keys ascend. -/
inductive Kept : Json → Prop where
  /-- The null value. -/
  | null : Kept .null
  /-- A truth value. -/
  | bool (flag : Bool) : Kept (.bool flag)
  /-- A number that is written as it was read. -/
  | number {numeral : List Char} (same : number numeral = some numeral) : Kept (.number numeral)
  /-- A string. -/
  | string (text : List Char) : Kept (.string text)
  /-- An array of such values. -/
  | array {items : List Json} (each : ∀ item ∈ items, Kept item) : Kept (.array items)
  /-- An object of such values, with every key once. -/
  | object {members : List (List Char × Json)} (each : ∀ member ∈ members, Kept member.2)
      (ascending : (members.map Prod.fst).Pairwise (· < ·)) : Kept (.object members)

variable {number}

/-- The last of the keys goes in at the end. -/
theorem insertMember_last {key : List Char} {value : Json} {members : List (List Char × Json)}
    (last : ∀ member ∈ members, member.1 < key) :
    insertMember key value members = members ++ [(key, value)] := by
  induction members with
  | nil => rfl
  | cons first rest ih =>
    rw [List.forall_mem_cons] at last
    rw [insertMember, if_pos last.1, ih last.2, List.cons_append]

/-- Members that ascend are left as they are. -/
theorem byKey_ascending {members : List (List Char × Json)}
    (ascending : (members.map Prod.fst).Pairwise (· < ·)) : byKey members = members := by
  suffices goesOn : ∀ rest before : List (List Char × Json),
      ((before ++ rest).map Prod.fst).Pairwise (· < ·) →
      rest.foldl (fun kept member => insertMember member.1 member.2 kept) before =
        before ++ rest from goesOn members [] ascending
  intro rest
  induction rest with
  | nil => exact fun before _ => (List.append_nil before).symm
  | cons first rest ih =>
    intro before ordered
    have last : ∀ member ∈ before, member.1 < first.1 := by
      intro member there
      rw [List.map_append, List.pairwise_append] at ordered
      exact ordered.2.2 _ (List.mem_map_of_mem there) _ List.mem_cons_self
    have joined : before ++ first :: rest = (before ++ [first]) ++ rest := by
      rw [List.append_assoc, List.singleton_append]
    rw [List.foldl_cons, insertMember_last last, joined]
    exact ih _ (joined ▸ ordered)

/-- Every item is kept as it is. -/
theorem keepItems_eq {items : List Json} (each : ∀ item ∈ items, keep number item = some item) :
    keepItems number items = some items := by
  induction items with
  | nil => rfl
  | cons item items ih =>
    rw [List.forall_mem_cons] at each
    rw [keepItems, each.1, ih each.2]
    rfl

/-- Every member is kept as it is. -/
theorem keepMembers_eq {members : List (List Char × Json)}
    (each : ∀ member ∈ members, keep number member.2 = some member.2) :
    keepMembers number members = some members := by
  induction members with
  | nil => rfl
  | cons member members ih =>
    rw [List.forall_mem_cons] at each
    rw [keepMembers, keepMember, each.1, ih each.2]
    rfl

/-- A value as it is kept is kept as it is. -/
theorem keep_of_kept {json : Json} (kept : Kept number json) : keep number json = some json := by
  induction kept with
  | null => rfl
  | bool flag => rfl
  | number same => rw [keep, same, Option.map_some]
  | string text => rfl
  | array each ih => rw [keep, keepItems_eq ih, Option.map_some]
  | object each ascending ih =>
    rw [keep, keepMembers_eq ih, Option.map_some, byKey_ascending ascending]

end

end Json

end Library
