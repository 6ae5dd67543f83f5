import Mathlib.Data.List.DropRight

/-!
# How a browser reads a URL reference

The parts of URL resolution that decide where a reference leads. The reader first rewrites the
reference: it strips control characters and spaces at both ends, deletes tabs and line breaks,
and under a special scheme takes a backslash for a slash. What it reads then may begin with a
scheme, or with an authority, or is relative to the base.
-/

namespace Library

/-- A C0 control or a space. -/
def isC0ControlOrSpace (c : Char) : Bool := c.toNat ≤ 0x20

/-- A tab, a line feed or a carriage return. -/
def isTabOrNewline (c : Char) : Bool := c == '\t' || c == '\n' || c == '\r'

/-- A reference without control characters and spaces at its ends, and without tabs and line
breaks anywhere. -/
def cleaned (reference : List Char) : List Char :=
  ((reference.dropWhile isC0ControlOrSpace).rdropWhile isC0ControlOrSpace).filter fun c =>
    !isTabOrNewline c

/-- A character that may continue a scheme. -/
def isSchemeCharacter (c : Char) : Bool := c.isAlphanum || c == '+' || c == '-' || c == '.'

/-- The scheme a text begins with, and what follows its colon. -/
def readScheme : List Char → Option (List Char × List Char)
  | [] => none
  | first :: rest =>
    if first.isAlpha then
      match rest.dropWhile isSchemeCharacter with
      | ':' :: after => some (first :: rest.takeWhile isSchemeCharacter, after)
      | _ => none
    else none

/-- The schemes under which a backslash is a slash. -/
def specialSchemes : List String := ["ftp", "file", "http", "https", "ws", "wss"]

/-- A backslash as a slash, under a special scheme. -/
def slashed (special : Bool) (text : List Char) : List Char :=
  if special then text.map fun c => if c = '\\' then '/' else c else text

/-- What a reference is read as. -/
inductive Reading where
  /-- It has a scheme of its own. -/
  | absolute (scheme after : List Char)
  /-- It has an authority of its own, under the base's scheme. -/
  | authority (after : List Char)
  /-- It is relative to the base's origin. -/
  | relative (text : List Char)
  deriving DecidableEq, Repr

/-- Read a reference. -/
def readReference (special : Bool) (reference : List Char) : Reading :=
  match readScheme (cleaned reference) with
  | some (scheme, after) => .absolute scheme after
  | none => match slashed special (cleaned reference) with
    | '/' :: '/' :: after => .authority after
    | text => .relative text

/-- The scheme, the host and the port of a URL. -/
structure Origin where
  /-- The scheme, without its colon. -/
  scheme : String
  /-- The host. -/
  host : String
  /-- The port, where it is not the default one. -/
  port : Option Nat
  deriving DecidableEq, Repr

/-- The origin of what a reference resolves to. How an absolute URL and an authority are read on
is left open. -/
def resolveOrigin (absolute : List Char → List Char → Origin)
    (authority : String → List Char → Origin) (base : Origin) (reference : List Char) : Origin :=
  match readReference (specialSchemes.contains base.scheme) reference with
  | .absolute scheme after => absolute scheme after
  | .authority after => authority base.scheme after
  | .relative _ => base

/-! ## References that are read as they stand -/

variable {text : List Char}

/-- A text without control characters and spaces is not rewritten. -/
theorem cleaned_eq_self (plain : ∀ c ∈ text, 0x20 < c.toNat) : cleaned text = text := by
  have kept : ∀ c ∈ text, isC0ControlOrSpace c = false := by
    intro c member
    have above := plain c member
    rw [isC0ControlOrSpace, decide_eq_false_iff_not]
    omega
  have front : text.dropWhile isC0ControlOrSpace = text := by
    cases text with
    | nil => rfl
    | cons first rest =>
      rw [List.dropWhile_cons_of_neg]
      rw [kept first List.mem_cons_self]
      decide
  have back : text.rdropWhile isC0ControlOrSpace = text := by
    rw [List.rdropWhile_eq_self_iff]
    intro nonempty
    rw [kept _ (List.getLast_mem nonempty)]
    decide
  rw [cleaned, front, back, List.filter_eq_self]
  intro c member
  have above := plain c member
  have others : c ≠ '\t' ∧ c ≠ '\n' ∧ c ≠ '\r' := by
    refine ⟨?_, ?_, ?_⟩ <;> rintro rfl <;> exact absurd above (by decide)
  simp [isTabOrNewline, others]

/-- A text without backslashes reads the same under every scheme. -/
theorem slashed_eq_self (special : Bool) (plain : '\\' ∉ text) : slashed special text = text := by
  cases special with
  | false => rfl
  | true =>
    have same : (text.map fun c => if c = '\\' then '/' else c) = text.map id := by
      apply List.map_congr_left
      intro c member
      have other : c ≠ '\\' := fun is => plain (is ▸ member)
      rw [if_neg other]
      rfl
    rw [slashed, if_pos rfl, same, List.map_id]

/-- A rooted text that needs no rewriting has no scheme, and an authority only after a second
slash. -/
theorem readReference_rooted (special : Bool) (plain : ∀ c ∈ '/' :: text, 0x20 < c.toNat)
    (folded : '\\' ∉ '/' :: text) (single : text.head? ≠ some '/') :
    readReference special ('/' :: text) = .relative ('/' :: text) := by
  have schemeless : readScheme ('/' :: text) = none := rfl
  rw [readReference, cleaned_eq_self plain, schemeless, slashed_eq_self special folded]
  cases text with
  | nil => rfl
  | cons second rest =>
    have other : second ≠ '/' := fun is => single (congrArg some is)
    split
    · rename_i scheme after impossible
      cases impossible
    · split
      · rename_i after same
        cases same
        exact absurd rfl other
      · rfl

/-- A rooted reference stays at the origin of whatever it is resolved against. -/
theorem resolveOrigin_rooted (absolute : List Char → List Char → Origin)
    (authority : String → List Char → Origin) (base : Origin)
    (plain : ∀ c ∈ '/' :: text, 0x20 < c.toNat) (folded : '\\' ∉ '/' :: text)
    (single : text.head? ≠ some '/') :
    resolveOrigin absolute authority base ('/' :: text) = base := by
  rw [resolveOrigin, readReference_rooted _ plain folded single]

end Library
