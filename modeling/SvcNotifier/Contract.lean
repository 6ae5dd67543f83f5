import SvcNotifier.Base

/-!
# The published language

`br-notifier-contract`: the deliver command and its `RelativeLink`. The newtype's field is
private to the crate and `parse` is its only constructor, so a link carries the proof that
every check of `parse` passed on its text.
-/

namespace SvcNotifier

/-- `char::is_control`: general category Cc. -/
def isControl (c : Char) : Bool := c.toNat ≤ 0x1F || (0x7F ≤ c.toNat && c.toNat ≤ 0x9F)

/-- `char::is_whitespace`: the Unicode property White_Space. -/
def isWhitespace (c : Char) : Bool :=
  (0x09 ≤ c.toNat && c.toNat ≤ 0x0D) || c.toNat == 0x20 || c.toNat == 0x85 || c.toNat == 0xA0 ||
    c.toNat == 0x1680 || (0x2000 ≤ c.toNat && c.toNat ≤ 0x200A) || c.toNat == 0x2028 ||
    c.toNat == 0x2029 || c.toNat == 0x202F || c.toNat == 0x205F || c.toNat == 0x3000

/-- `RelativeLinkError`. -/
inductive RelativeLinkError where
  /-- There is nothing in it. -/
  | empty
  /-- It holds a control character or a blank. -/
  | forbiddenCharacter
  /-- It holds a backslash, which browsers read as a slash. -/
  | backslash
  /-- It does not start with a slash. -/
  | notRooted
  /-- It starts with two slashes. -/
  | schemeRelative
  deriving DecidableEq, Repr

/-- The error's message. -/
def RelativeLinkError.message : RelativeLinkError → String
  | .empty => "relative_link_empty"
  | .forbiddenCharacter => "relative_link_forbidden_character"
  | .backslash => "relative_link_backslash"
  | .notRooted => "relative_link_not_rooted"
  | .schemeRelative => "relative_link_scheme_relative"

/-- The first check of `RelativeLink::parse` that the candidate fails, if any. -/
def RelativeLink.refusal (candidate : String) : Option RelativeLinkError :=
  if candidate.toList.isEmpty then some .empty
  else if candidate.toList.any fun c => isControl c || isWhitespace c then
    some .forbiddenCharacter
  else if candidate.toList.contains '\\' then some .backslash
  else if !(['/'].isPrefixOf candidate.toList) then some .notRooted
  else if ['/', '/'].isPrefixOf candidate.toList then some .schemeRelative
  else none

/-- `RelativeLink`: a same-domain relative URL, which `parse` has accepted. -/
structure RelativeLink where
  /-- `RelativeLink::as_str`. -/
  asStr : String
  /-- No check of `parse` refuses the text. -/
  accepted : RelativeLink.refusal asStr = none

/-- `RelativeLink::parse`. -/
def RelativeLink.parse (candidate : String) : Except RelativeLinkError RelativeLink :=
  match accepted : RelativeLink.refusal candidate with
  | some error => .error error
  | none => .ok ⟨candidate, accepted⟩

/-- Parsing the text of a link returns the link. -/
theorem RelativeLink.parse_asStr (link : RelativeLink) :
    RelativeLink.parse link.asStr = .ok link := by
  unfold RelativeLink.parse
  split
  · rename_i error refused
    rw [link.accepted] at refused
    contradiction
  · rfl

/-- A link parsed from a candidate has the candidate as its text. -/
theorem RelativeLink.asStr_of_parse {candidate : String} {link : RelativeLink}
    (parsed : RelativeLink.parse candidate = .ok link) : link.asStr = candidate := by
  unfold RelativeLink.parse at parsed
  split at parsed
  · contradiction
  · cases parsed
    rfl

/-- `DeliverNotification`, the command a producer sends. -/
structure DeliverNotification where
  /-- The event the notifications tell of; half of the dedup key. -/
  sourceEventId : Uuid
  /-- Whom to notify; the other half, one notification each. -/
  recipientIds : List Uuid
  /-- The rendering key. -/
  template : String
  /-- Producer data. -/
  payload : Value
  /-- Where the notification leads. -/
  link : Option RelativeLink

end SvcNotifier
