import SvcNotifier.Contract

/-!
# The strict validation of a permissively decoded payload

`RawDeliver`, `validate` and the identifiers traced from a payload that was refused. What the
intake takes from its libraries is a parameter: how `uuid` reads a text, and the message of a
`serde` error.
-/

namespace SvcNotifier

/-- The parts of `serde_json` and `uuid` that stay abstract. -/
structure Serde where
  /-- `Uuid::parse_str`. -/
  parseStr : String → Option Uuid
  /-- The text of the error that refuses a payload's shape. -/
  shapeError : Value → String

/-- `DeadLetterReason`. -/
inductive DeadLetterReason where
  /-- The payload has not the shape of a command. -/
  | payloadShapeRejected
  /-- Its link is refused. -/
  | relativeLinkRejected
  /-- It names nobody. -/
  | noRecipients
  /-- Its template is blank, or holds control characters. -/
  | templateRejected
  /-- PostgreSQL has refused its rows for good. -/
  | storageRejected
  deriving DecidableEq, Repr

/-- `DeadLetterReason::as_str`. -/
def DeadLetterReason.asStr : DeadLetterReason → String
  | .payloadShapeRejected => "payload_shape_rejected"
  | .relativeLinkRejected => "relative_link_rejected"
  | .noRecipients => "no_recipients"
  | .templateRejected => "template_rejected"
  | .storageRejected => "storage_rejected"

/-- `Rejection`. -/
structure Rejection where
  /-- Why the command is refused. -/
  reason : DeadLetterReason
  /-- The text of the error. -/
  detail : String

/-- `RawDeliver`. -/
structure RawDeliver where
  /-- The event that the notification is about. -/
  sourceEventId : Uuid
  /-- Who is to be notified. -/
  recipientIds : List Uuid
  /-- The rendering key. -/
  template : String
  /-- Producer data. -/
  payload : Value
  /-- The text of the link, yet to be parsed. -/
  link : Option String

/-- `Value::get` by a key: only an object has any. -/
def Value.get (key : String) : Value → Option Value
  | .object entries => (entries.find? fun entry => entry.1 == key).map Prod.snd
  | _ => none

/-- `Value::as_str`. -/
def Value.asStr : Value → Option String
  | .string text => some text
  | _ => none

/-- `Value::as_array`. -/
def Value.asArray : Value → Option (List Value)
  | .array items => some items
  | _ => none

/-- An `Option<String>` field marked `#[serde(default)]`. -/
def decodeLink : Option Value → Option (Option String)
  | none => some none
  | some .null => some none
  | some (.string text) => some (some text)
  | some _ => none

section

variable (serde : Serde)

/-- A `Uuid` field: a string that parses. -/
def decodeUuid (value : Value) : Option Uuid := value.asStr.bind serde.parseStr

/-- A `Vec<Uuid>` field: an array all of whose items parse. -/
def decodeUuids : List Value → Option (List Uuid)
  | [] => some []
  | item :: items => match decodeUuid serde item, decodeUuids items with
    | some id, some ids => some (id :: ids)
    | _, _ => none

/-- The derived decode of `RawDeliver` from its fields: every field but the link is required,
and `payload` may be any value. -/
def decodeFields (sourceEventId recipientIds template payload link : Option Value) :
    Option RawDeliver := do
  let sourceEventId ← sourceEventId.bind (decodeUuid serde)
  let items ← recipientIds.bind Value.asArray
  let recipientIds ← decodeUuids serde items
  let template ← template.bind Value.asStr
  let payload ← payload
  let link ← decodeLink link
  some { sourceEventId, recipientIds, template, payload, link }

/-- `serde_json::from_value::<RawDeliver>`: an object by its keys, others ignored, or an array
by position, with no item left over. -/
def rawDeliver : Value → Option RawDeliver
  | .object entries =>
    let field := fun key => Value.get key (.object entries)
    decodeFields serde (field "source_event_id") (field "recipient_ids") (field "template")
      (field "payload") (field "link")
  | .array items =>
    if items.length ≤ 5 then
      decodeFields serde items[0]? items[1]? items[2]? items[3]? items[4]?
    else none
  | _ => none

/-- `{:04X}` of a code point. -/
def upperHex4 (n : Nat) : String :=
  let digits := (Nat.toDigits 16 n).map Char.toUpper
  String.ofList (List.replicate (4 - digits.length) '0' ++ digits)

/-- The link of a command, parsed when there is one. -/
def validateLink : Option String → Except Rejection (Option RelativeLink)
  | none => .ok none
  | some candidate => match RelativeLink.parse candidate with
    | .ok link => .ok (some link)
    | .error error => .error { reason := .relativeLinkRejected, detail := error.message }

/-- `validate`. -/
def validate (payload : Value) : Except Rejection DeliverNotification := do
  let raw ← match rawDeliver serde payload with
    | some raw => pure raw
    | none => throw { reason := .payloadShapeRejected, detail := serde.shapeError payload }
  let link ← validateLink raw.link
  if raw.recipientIds.isEmpty then
    throw { reason := .noRecipients, detail := "the command names no recipient" }
  if raw.template.toList.all isWhitespace then
    throw { reason := .templateRejected, detail := "the template is empty" }
  match raw.template.toList.find? isControl with
  | some offending =>
    throw { reason := .templateRejected,
            detail := "the template carries the control character U+" ++
              upperHex4 offending.toNat }
  | none =>
    pure { sourceEventId := raw.sourceEventId, recipientIds := raw.recipientIds,
           template := raw.template, payload := raw.payload, link := link }

/-- `traced_source_event_id`. -/
def tracedSourceEventId (payload : Value) : Option Uuid :=
  (payload.get "source_event_id").bind (decodeUuid serde)

/-- `traced_recipient_ids`. -/
def tracedRecipientIds (payload : Value) : List Uuid :=
  match (payload.get "recipient_ids").bind Value.asArray with
  | some ids => ids.filterMap (decodeUuid serde)
  | none => []

end

/-! ## A payload to run -/

/-- Three identifiers, by their texts. -/
def sampleSerde : Serde where
  parseStr text :=
    if text = "00000000-0000-0000-0000-000000000001" then some (sampleId 1)
    else if text = "00000000-0000-0000-0000-000000000002" then some (sampleId 2)
    else if text = "00000000-0000-0000-0000-000000000003" then some (sampleId 3)
    else none
  shapeError _ := "invalid shape"

/-- A payload that names two recipients. -/
def samplePayload : Value :=
  .object [("payload", .null),
    ("recipient_ids", .array [.string "00000000-0000-0000-0000-000000000002",
      .string "00000000-0000-0000-0000-000000000003"]),
    ("source_event_id", .string "00000000-0000-0000-0000-000000000001"),
    ("template", .string "welcome")]

/-- The command it is accepted as. -/
def sampleDeliver : DeliverNotification :=
  { sourceEventId := sampleId 1, recipientIds := [sampleId 2, sampleId 3], template := "welcome",
    payload := .null, link := none }

example : validate sampleSerde samplePayload = .ok sampleDeliver := rfl

end SvcNotifier
