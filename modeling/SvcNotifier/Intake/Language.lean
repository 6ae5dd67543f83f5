import SvcNotifier.Links
import SvcNotifier.Intake.Validate

/-!
# The published language and the intake's reading of it

`DeliverNotification` on the wire, as its derived decoder and encoder have it, against
`RawDeliver` and `validate`. The two decoders were written apart: the contract's parses the
link while it decodes, the intake decodes any text and parses it afterwards. They agree field
by field, so they accept the same values, and `validate` adds its own two conditions.
-/

namespace SvcNotifier

/-- An `Option<RelativeLink>` field marked `#[serde(default)]`. -/
def decodeRelativeLink : Option Value → Option (Option RelativeLink)
  | none => some none
  | some .null => some none
  | some value => (RelativeLink.deserialize value).map some

/-- The 32 hexadecimal digits of an identifier. -/
def Uuid.hexDigits (id : Uuid) : List Char :=
  (List.range 32).map fun place => Nat.digitChar ((id.bits.toNat >>> (4 * (31 - place))) % 16)

/-- `Uuid`'s `Display`, which is also how it is serialized. -/
def Uuid.hyphenated (id : Uuid) : String :=
  String.ofList (id.hexDigits.take 8 ++ '-' :: (id.hexDigits.drop 8).take 4 ++
    '-' :: (id.hexDigits.drop 12).take 4 ++ '-' :: (id.hexDigits.drop 16).take 4 ++
    '-' :: id.hexDigits.drop 20)

namespace DeliverNotification

section

variable (serde : Serde)

/-- The derived decode from the fields: every field but the link is required, and `payload` may
be any value. -/
def decodeFields (sourceEventId recipientIds template payload link : Option Value) :
    Option DeliverNotification := do
  let sourceEventId ← sourceEventId.bind (decodeUuid serde)
  let items ← recipientIds.bind Value.asArray
  let recipientIds ← decodeUuids serde items
  let template ← template.bind Value.asStr
  let payload ← payload
  let link ← decodeRelativeLink link
  some { sourceEventId, recipientIds, template, payload, link }

/-- `serde_json::from_value::<DeliverNotification>`: an object by its keys, others ignored, or an
array by position, with no item left over. -/
def decode : Value → Option DeliverNotification
  | .object entries =>
    let field := fun key => Value.get key (.object entries)
    decodeFields serde (field "source_event_id") (field "recipient_ids") (field "template")
      (field "payload") (field "link")
  | .array items =>
    if items.length ≤ 5 then
      decodeFields serde items[0]? items[1]? items[2]? items[3]? items[4]?
    else none
  | _ => none

end

/-- `serde_json::to_value`: an absent link is left out. -/
def encode (command : DeliverNotification) : Value :=
  .object ((command.link.map fun link => ("link", link.serialize)).toList ++
    [("payload", command.payload),
     ("recipient_ids", .array (command.recipientIds.map fun id => .string id.hyphenated)),
     ("source_event_id", .string command.sourceEventId.hyphenated),
     ("template", .string command.template)])

/-- What `validate` asks of a command besides its shape and its link. -/
structure Deliverable (command : DeliverNotification) : Prop where
  /-- It names a recipient. -/
  addressed : command.recipientIds ≠ []
  /-- Its template is not blank. -/
  legible : ∃ c ∈ command.template.toList, isWhitespace c = false
  /-- Its template holds no control character. -/
  printable : ∀ c ∈ command.template.toList, isControl c = false

end DeliverNotification

/-- `validate`, once the payload is decoded and its link is parsed. -/
def judge (command : DeliverNotification) : Except Rejection DeliverNotification := do
  if command.recipientIds.isEmpty then
    throw { reason := .noRecipients, detail := "the command names no recipient" }
  if command.template.toList.all isWhitespace then
    throw { reason := .templateRejected, detail := "the template is empty" }
  match command.template.toList.find? isControl with
  | some offending =>
    throw { reason := .templateRejected,
            detail := "the template carries the control character U+" ++
              upperHex4 offending.toNat }
  | none => pure command

/-- The command of a raw payload, when its link is parsed. -/
def RawDeliver.command (raw : RawDeliver) : Option DeliverNotification :=
  match validateLink raw.link with
  | .ok link => some
    { sourceEventId := raw.sourceEventId, recipientIds := raw.recipientIds,
      template := raw.template, payload := raw.payload, link := link }
  | .error _ => none

variable {serde : Serde}

/-! ## `validate`, step by step -/

/-- A payload of another shape is refused for it. -/
theorem validate_shapeless {payload : Value} (shapeless : rawDeliver serde payload = none) :
    validate serde payload =
      .error { reason := .payloadShapeRejected, detail := serde.shapeError payload } := by
  unfold validate
  rw [shapeless]
  rfl

/-- A payload with an unsafe link is refused for it. -/
theorem validate_refused_link {payload : Value} {raw : RawDeliver} {rejection : Rejection}
    (decoded : rawDeliver serde payload = some raw)
    (refusedLink : validateLink raw.link = .error rejection) :
    validate serde payload = .error rejection := by
  unfold validate
  rw [decoded]
  simp only [pure_bind, refusedLink]
  rfl

/-- Any other payload is judged as the command it stands for. -/
theorem validate_command {payload : Value} {raw : RawDeliver} {command : DeliverNotification}
    (decoded : rawDeliver serde payload = some raw) (stands : raw.command = some command) :
    validate serde payload = judge command := by
  unfold RawDeliver.command at stands
  split at stands
  · rename_i link parsed
    obtain rfl := Option.some.inj stands
    unfold validate
    rw [decoded]
    simp only [pure_bind, parsed]
    rfl
  · contradiction

/-- The judgement of a command. -/
theorem judge_eq (command : DeliverNotification) :
    (command.Deliverable ∧ judge command = .ok command) ∨
    (command.recipientIds = [] ∧ ∃ detail, judge command = .error ⟨.noRecipients, detail⟩) ∨
    (command.recipientIds ≠ [] ∧ ¬ command.Deliverable ∧
      ∃ detail, judge command = .error ⟨.templateRejected, detail⟩) := by
  unfold judge
  by_cases unaddressed : command.recipientIds = []
  · right
    left
    rw [if_pos (by rw [unaddressed]; rfl)]
    exact ⟨unaddressed, _, rfl⟩
  · rw [if_neg (by simpa using unaddressed)]
    by_cases blank : command.template.toList.all isWhitespace = true
    · right
      right
      rw [if_pos blank]
      refine ⟨unaddressed, ?_, _, rfl⟩
      intro deliverable
      obtain ⟨c, member, visible⟩ := deliverable.legible
      rw [List.all_eq_true.mp blank c member] at visible
      contradiction
    · rw [if_neg blank]
      have legible : ∃ c ∈ command.template.toList, isWhitespace c = false := by
        simpa using blank
      cases found : command.template.toList.find? isControl with
      | some offending =>
        right
        right
        refine ⟨unaddressed, ?_, _, rfl⟩
        intro deliverable
        have member := List.mem_of_find?_eq_some found
        have control : isControl offending = true := by simpa using List.find?_some found
        rw [deliverable.printable offending member] at control
        contradiction
      | none =>
        left
        refine ⟨⟨unaddressed, legible, ?_⟩, rfl⟩
        intro c member
        exact Bool.eq_false_iff.mpr (List.find?_eq_none.mp found c member)

/-! ## The two decoders -/

/-- The contract decodes a link where the intake decodes a text that is parsed. -/
theorem decodeRelativeLink_eq (field : Option Value) :
    decodeRelativeLink field =
      (decodeLink field).bind fun link => (validateLink link).toOption := by
  cases field with
  | none => rfl
  | some value =>
    cases value with
    | string text =>
      show (RelativeLink.parse text).toOption.map some = (validateLink (some text)).toOption
      rw [validateLink]
      cases RelativeLink.parse text with
      | ok link => rfl
      | error error => rfl
    | _ => rfl

/-- Field by field, the contract decodes the commands of what the intake decodes. -/
theorem decodeFields_eq (sourceEventId recipientIds template payload link : Option Value) :
    DeliverNotification.decodeFields serde sourceEventId recipientIds template payload link =
      (decodeFields serde sourceEventId recipientIds template payload link).bind
        RawDeliver.command := by
  unfold DeliverNotification.decodeFields decodeFields
  rw [decodeRelativeLink_eq]
  cases sourceEventId.bind (decodeUuid serde) with
  | none => rfl
  | some source =>
    cases recipientIds.bind Value.asArray with
    | none => rfl
    | some items =>
      cases ids : decodeUuids serde items with
      | none => simp [ids]
      | some decoded =>
        cases template.bind Value.asStr with
        | none => simp
        | some text =>
          cases payload with
          | none => simp
          | some data =>
            cases decodeLink link with
            | none => simp
            | some candidate =>
              simp only [ids, Option.bind_eq_bind, Option.bind_some, RawDeliver.command]
              cases validateLink candidate with
              | ok parsed => rfl
              | error rejection => rfl

/-- The contract decodes the commands of what the intake decodes, from any value. -/
theorem decode_eq (payload : Value) :
    DeliverNotification.decode serde payload =
      (rawDeliver serde payload).bind RawDeliver.command := by
  cases payload with
  | object entries => exact decodeFields_eq _ _ _ _ _
  | array items =>
    by_cases short : items.length ≤ 5
    · rw [DeliverNotification.decode, rawDeliver, if_pos short, if_pos short]
      exact decodeFields_eq _ _ _ _ _
    · rw [DeliverNotification.decode, rawDeliver, if_neg short, if_neg short]
      rfl
  | _ => rfl

/-- What the contract decodes is judged. -/
theorem validate_of_decode {payload : Value} {command : DeliverNotification}
    (decoded : DeliverNotification.decode serde payload = some command) :
    validate serde payload = judge command := by
  rw [decode_eq] at decoded
  obtain ⟨raw, isRaw, stands⟩ := Option.bind_eq_some_iff.mp decoded
  exact validate_command isRaw stands

/-- What the contract does not decode is refused. -/
theorem validate_of_undecoded {payload : Value}
    (undecoded : DeliverNotification.decode serde payload = none) :
    ∃ rejection, validate serde payload = .error rejection := by
  cases decoded : rawDeliver serde payload with
  | none => exact ⟨_, validate_shapeless decoded⟩
  | some raw =>
    rw [decode_eq, decoded, Option.bind_some, RawDeliver.command] at undecoded
    cases parsed : validateLink raw.link with
    | error rejection => exact ⟨rejection, validate_refused_link decoded parsed⟩
    | ok link =>
      rw [parsed] at undecoded
      contradiction

/-- A command is judged to be itself exactly when it is deliverable. -/
theorem judge_eq_ok {command found : DeliverNotification} :
    judge command = .ok found ↔ found = command ∧ command.Deliverable := by
  rcases judge_eq command with ⟨deliverable, judged⟩ | ⟨unaddressed, detail, judged⟩ |
    ⟨-, undeliverable, detail, judged⟩
  · rw [judged]
    constructor
    · intro same
      exact ⟨(Except.ok.inj same).symm, deliverable⟩
    · intro same
      rw [same.1]
  · rw [judged]
    constructor
    · intro impossible
      contradiction
    · intro same
      exact absurd unaddressed same.2.addressed
  · rw [judged]
    constructor
    · intro impossible
      contradiction
    · intro same
      exact absurd same.2 undeliverable

/-- What a raw payload and the command it stands for have in common. -/
structure RawDeliver.Stands (raw : RawDeliver) (command : DeliverNotification) : Prop where
  /-- The source event. -/
  sourceEventId : command.sourceEventId = raw.sourceEventId
  /-- The recipients. -/
  recipientIds : command.recipientIds = raw.recipientIds
  /-- The template. -/
  template : command.template = raw.template
  /-- Producer data. -/
  payload : command.payload = raw.payload
  /-- The text of the link. -/
  link : command.link.map RelativeLink.asStr = raw.link

/-- Identifiers that the text of each parses to are decoded from their texts. -/
theorem decodeUuids_texts {ids : List Uuid}
    (readable : ∀ id ∈ ids, serde.parseStr id.hyphenated = some id) :
    decodeUuids serde (ids.map fun id => .string id.hyphenated) = some ids := by
  induction ids with
  | nil => rfl
  | cons id ids ih =>
    rw [List.forall_mem_cons] at readable
    have first : decodeUuid serde (.string id.hyphenated) = some id := readable.1
    rw [List.map_cons, decodeUuids, first, ih readable.2]

/-- The contract decodes what it encodes. -/
theorem decode_encode {command : DeliverNotification}
    (readable : ∀ id ∈ command.sourceEventId :: command.recipientIds,
      serde.parseStr id.hyphenated = some id) :
    DeliverNotification.decode serde command.encode = some command := by
  rw [List.forall_mem_cons] at readable
  have source : decodeUuid serde (.string command.sourceEventId.hyphenated) =
      some command.sourceEventId := readable.1
  have recipients := decodeUuids_texts readable.2
  obtain ⟨sourceEventId, recipientIds, template, payload, link⟩ := command
  cases link with
  | none =>
    simp [DeliverNotification.encode, DeliverNotification.decode, Value.get,
      DeliverNotification.decodeFields, Value.asArray, Value.asStr, source, recipients,
      decodeRelativeLink]
  | some link =>
    simp [DeliverNotification.encode, DeliverNotification.decode, Value.get,
      DeliverNotification.decodeFields, Value.asArray, Value.asStr, source, recipients,
      decodeRelativeLink, RelativeLink.serialize, RelativeLink.deserialize, link.parse_asStr,
      Except.toOption]

/-- The intake and the contract describe the same language. The intake validates a value as a
command exactly when the contract decodes it as that command and the command is deliverable. It
validates what a producer encodes as the command it was when the command is deliverable, and
otherwise refuses it for its recipients or for its template. -/
theorem intake_and_contract_agree (serde : Serde) :
    (∀ payload command, validate serde payload = .ok command ↔
      DeliverNotification.decode serde payload = some command ∧ command.Deliverable) ∧
    ∀ command,
      (∀ id ∈ command.sourceEventId :: command.recipientIds,
        serde.parseStr id.hyphenated = some id) →
      (command.Deliverable ∧ validate serde command.encode = .ok command) ∨
      (command.recipientIds = [] ∧ ∃ detail,
        validate serde command.encode = .error ⟨.noRecipients, detail⟩) ∨
      (command.recipientIds ≠ [] ∧ ¬ command.Deliverable ∧ ∃ detail,
        validate serde command.encode = .error ⟨.templateRejected, detail⟩) := by
  constructor
  · intro payload command
    cases decoded : DeliverNotification.decode serde payload with
    | none =>
      obtain ⟨rejection, refused⟩ := validate_of_undecoded decoded
      rw [refused]
      simp
    | some found =>
      rw [validate_of_decode decoded, judge_eq_ok, Option.some.injEq]
      constructor
      · rintro ⟨rfl, deliverable⟩
        exact ⟨rfl, deliverable⟩
      · rintro ⟨rfl, deliverable⟩
        exact ⟨rfl, deliverable⟩
  · intro command readable
    rw [validate_of_decode (decode_encode readable)]
    exact judge_eq command

/-- A command with a link is read back from what is sent. -/
theorem intake_and_contract_agree_sample :
    validate sampleSerde
        { sampleDeliver with link := some ⟨"/meetings/m-1", by decide⟩ }.encode =
      .ok { sampleDeliver with link := some ⟨"/meetings/m-1", by decide⟩ } := by
  have readable : ∀ id ∈ sampleDeliver.sourceEventId :: sampleDeliver.recipientIds,
      sampleSerde.parseStr id.hyphenated = some id := by decide
  rcases (intake_and_contract_agree sampleSerde).2
      { sampleDeliver with link := some ⟨"/meetings/m-1", by decide⟩ } readable with
    ⟨-, read⟩ | ⟨unaddressed, -⟩ | ⟨-, undeliverable, -⟩
  · exact read
  · contradiction
  · have legible : sampleDeliver.template.toList.any (fun c => !isWhitespace c) = true := by decide
    have printable : sampleDeliver.template.toList.all (fun c => !isControl c) = true := by decide
    simp only [List.any_eq_true, List.all_eq_true, Bool.not_eq_true'] at legible printable
    exact absurd ⟨by decide, legible, printable⟩ undeliverable

end SvcNotifier
