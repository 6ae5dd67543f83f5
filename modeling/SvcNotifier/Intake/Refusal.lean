import SvcNotifier.Intake.Language
import SvcNotifier.Intake.Replicas

/-!
# What the ledger says of a refused payload

The ids of a refused payload are read a second time, by hand, from a JSON object. The derived
decoder reads a payload from an object or from an array by position; of an array the second
reading finds nothing.
-/

namespace SvcNotifier

open Library Program

variable {serde : Serde}

/-- Where every item decodes, none is dropped. -/
theorem filterMap_decodeUuid {items : List Value} {ids : List Uuid}
    (decoded : decodeUuids serde items = some ids) : items.filterMap (decodeUuid serde) = ids := by
  induction items generalizing ids with
  | nil => exact Option.some.inj decoded
  | cons item items ih =>
    rw [decodeUuids] at decoded
    cases first : decodeUuid serde item with
    | none =>
      rw [first] at decoded
      contradiction
    | some id =>
      cases others : decodeUuids serde items with
      | none =>
        rw [first, others] at decoded
        contradiction
      | some rest =>
        rw [first, others] at decoded
        rw [List.filterMap_cons_some first, ih others]
        exact Option.some.inj decoded

/-- What is decoded of the two fields that are read again. -/
theorem decodeFields_ids {sourceEventId recipientIds template payload link : Option Value}
    {raw : RawDeliver}
    (decoded : decodeFields serde sourceEventId recipientIds template payload link = some raw) :
    sourceEventId.bind (decodeUuid serde) = some raw.sourceEventId ∧
      ∃ items, recipientIds.bind Value.asArray = some items ∧
        decodeUuids serde items = some raw.recipientIds := by
  unfold decodeFields at decoded
  obtain ⟨source, isSource, decoded⟩ := Option.bind_eq_some_iff.mp decoded
  obtain ⟨items, isItems, decoded⟩ := Option.bind_eq_some_iff.mp decoded
  obtain ⟨ids, isIds, decoded⟩ := Option.bind_eq_some_iff.mp decoded
  obtain ⟨text, -, decoded⟩ := Option.bind_eq_some_iff.mp decoded
  obtain ⟨data, -, decoded⟩ := Option.bind_eq_some_iff.mp decoded
  obtain ⟨candidate, -, decoded⟩ := Option.bind_eq_some_iff.mp decoded
  rw [← Option.some.inj decoded]
  exact ⟨isSource, items, isItems, isIds⟩

/-- Of an object, the second reading finds what was decoded. -/
theorem traced_of_object {entries : List (String × Value)} {raw : RawDeliver}
    (decoded : rawDeliver serde (.object entries) = some raw) :
    tracedSourceEventId serde (.object entries) = some raw.sourceEventId ∧
      tracedRecipientIds serde (.object entries) = raw.recipientIds := by
  obtain ⟨source, items, isItems, ids⟩ := decodeFields_ids decoded
  constructor
  · exact source
  · rw [tracedRecipientIds, isItems]
    exact filterMap_decodeUuid ids

/-- Of an array, the second reading finds nothing. -/
theorem traced_of_array (serde : Serde) (items : List Value) :
    tracedSourceEventId serde (.array items) = none ∧
      tracedRecipientIds serde (.array items) = [] := ⟨rfl, rfl⟩

/-- A payload that decodes is an object or an array. -/
theorem shape_of_decoded {payload : Value} {raw : RawDeliver}
    (decoded : rawDeliver serde payload = some raw) :
    (∃ entries, payload = .object entries) ∨ ∃ items, payload = .array items := by
  cases payload with
  | object entries => exact Or.inl ⟨entries, rfl⟩
  | array items => exact Or.inr ⟨items, rfl⟩
  | _ => contradiction

/-- `handle` writes what it refuses to the ledger first. -/
theorem handle_refused {errorText : SqlxError → String} {delivered : Delivered}
    {envelope : IntegrationCommand} {rejection : Rejection}
    (decoded : delivered.payload = .ok envelope)
    (rejected : validate serde envelope.payload = .error rejection) :
    ∃ next, handle serde errorText delivered =
      .call (.recordDeadLetter (refused serde (.of envelope) rejection envelope.payload
        delivered.deliveredCount)) next := by
  unfold handle attempt
  rw [decoded]
  simp only [rejected]
  exact ⟨_, rfl⟩

/-- A refusal names everybody it drops exactly when the payload is an object: the ledger row
that `handle` writes of a payload it can decode but refuses has the decoded source event and
the decoded recipients in full. -/
theorem refusal_names_everybody_iff (serde : Serde) (errorText : SqlxError → String)
    (delivered : Delivered) (envelope : IntegrationCommand) (raw : RawDeliver)
    (rejection : Rejection) (opened : delivered.payload = .ok envelope)
    (decoded : rawDeliver serde envelope.payload = some raw)
    (rejected : validate serde envelope.payload = .error rejection) :
    ∃ abandoned next, handle serde errorText delivered = .call (.recordDeadLetter abandoned) next ∧
      ∀ id now,
        ((DeadLetter.of id now abandoned).sourceEventId = some raw.sourceEventId ∧
          (DeadLetter.of id now abandoned).recipientIds = raw.recipientIds) ↔
        ∃ entries, envelope.payload = .object entries := by
  have written : ∃ next, handle serde errorText delivered = .call (.recordDeadLetter (refused serde
      (.of envelope) rejection envelope.payload delivered.deliveredCount)) next :=
    handle_refused opened rejected
  obtain ⟨next, writes⟩ := written
  refine ⟨_, next, writes, ?_⟩
  intro id now
  rcases shape_of_decoded decoded with ⟨entries, isObject⟩ | ⟨items, isArray⟩
  · rw [isObject] at decoded
    have traced := traced_of_object decoded
    simp only [DeadLetter.of, refused, isObject, traced, true_and, true_iff]
    exact ⟨entries, rfl⟩
  · have traced := traced_of_array serde items
    simp only [DeadLetter.of, refused, isArray, traced]
    simp

/-- The fields of a command by position, with a link that is refused. -/
def samplePositional : Value :=
  .array [.string "00000000-0000-0000-0000-000000000001",
    .array [.string "00000000-0000-0000-0000-000000000002"], .string "welcome", .null,
    .string "https://evil.com"]

/-- The fields of the positional payload, by their keys. -/
def sampleKeyed : Value :=
  .object [("link", .string "https://evil.com"), ("payload", .null),
    ("recipient_ids", .array [.string "00000000-0000-0000-0000-000000000002"]),
    ("source_event_id", .string "00000000-0000-0000-0000-000000000001"),
    ("template", .string "welcome")]

/-- What both decode to. -/
def sampleRefused : RawDeliver :=
  { sourceEventId := sampleId 1, recipientIds := [sampleId 2], template := "welcome",
    payload := .null, link := some "https://evil.com" }

/-- A frame that carries a payload. -/
def sampleCarrier (payload : Value) : IntegrationCommand :=
  { commandId := sampleId 4, correlationId := sampleId 5, causationId := none,
    actor := .service (sampleId 6), payload := payload }

/-- The ledger names the event and the recipient of the keyed payload. -/
theorem refusal_names_everybody_iff_sample :
    ∃ abandoned next, handle sampleSerde (fun _ => "")
        { payload := .ok (sampleCarrier sampleKeyed), deliveredCount := none } =
          .call (.recordDeadLetter abandoned) next ∧
      (DeadLetter.of (sampleId 7) ⟨0⟩ abandoned).sourceEventId = some (sampleId 1) ∧
      (DeadLetter.of (sampleId 7) ⟨0⟩ abandoned).recipientIds = [sampleId 2] := by
  obtain ⟨abandoned, next, writes, names⟩ := refusal_names_everybody_iff sampleSerde (fun _ => "")
    { payload := .ok (sampleCarrier sampleKeyed), deliveredCount := none }
    (sampleCarrier sampleKeyed) sampleRefused _ rfl rfl rfl
  exact ⟨abandoned, next, writes, (names (sampleId 7) ⟨0⟩).mpr ⟨_, rfl⟩⟩

/-- A payload by position is decoded, but nobody it names is named in the ledger. -/
theorem positional_refusal_names_nobody :
    ¬ ∀ payload raw rejection, rawDeliver sampleSerde payload = some raw →
      validate sampleSerde payload = .error rejection →
      tracedSourceEventId sampleSerde payload = some raw.sourceEventId ∧
        tracedRecipientIds sampleSerde payload = raw.recipientIds := by
  intro claimed
  have named := (claimed samplePositional sampleRefused _ rfl rfl).2
  have nobody : tracedRecipientIds sampleSerde samplePositional = [] := rfl
  have somebody : sampleRefused.recipientIds = [sampleId 2] := rfl
  rw [nobody, somebody] at named
  contradiction

end SvcNotifier
