import SvcNotifier.Codec

/-!
# How long the payloads are

PostgreSQL refuses a NOTIFY payload of 8000 bytes or more, which would abort the transaction. A
payload names at most a chunk of notifications, so none is that long, whatever it names and
whatever instant it carries. However many there are, all are sent, in order, a batch a statement.
-/

namespace SvcNotifier

open Library Program

/-- `PG_NOTIFY_PAYLOAD_LIMIT`: the first length that PostgreSQL refuses. -/
def pgNotifyPayloadLimit : Nat := 8000

/-! ## Identifiers and instants -/

/-- Digits are plain. -/
theorem isPlain_digitChar : ∀ digit < 16, Json.isPlain (Nat.digitChar digit) = true := by decide

/-- Decimal digits are plain. -/
theorem plain_decimal {digits : List Nat} (decimal : ∀ digit ∈ digits, digit < 10) :
    ∀ c ∈ digits.map Nat.digitChar, Json.isPlain c = true := by
  intro c member
  obtain ⟨digit, inside, rfl⟩ := List.mem_map.mp member
  have small := decimal digit inside
  exact isPlain_digitChar digit (by omega)

/-- The text of an identifier is plain. -/
theorem Uuid.plain_hyphenated (id : Uuid) : ∀ c ∈ id.hyphenated.toList, Json.isPlain c = true := by
  have digits : ∀ c ∈ id.hexDigits, Json.isPlain c = true := by
    intro c member
    obtain ⟨place, -, rfl⟩ := List.mem_map.mp member
    exact isPlain_digitChar _ (Nat.mod_lt _ (by decide))
  have group : ∀ first, ∀ c ∈ (id.hexDigits.drop first).take 4, Json.isPlain c = true :=
    fun first c member => digits c (List.mem_of_mem_drop (List.mem_of_mem_take member))
  have dash : Json.isPlain '-' = true := by decide
  rw [Uuid.toList_hyphenated]
  simp only [List.forall_mem_append, List.forall_mem_cons]
  exact ⟨⟨⟨⟨fun c member => digits c (List.mem_of_mem_take member), dash, group 8⟩, dash, group 12⟩,
    dash, group 16⟩, dash, fun c member => digits c (List.mem_of_mem_drop member)⟩

/-- A year that chrono has takes at most six digits and a sign. -/
theorem plain_writeYear {year : Int} (least : minYear ≤ year) (most : year ≤ maxYear) :
    (writeYear year).length ≤ 7 ∧ ∀ c ∈ writeYear year, Json.isPlain c = true := by
  unfold minYear at least
  unfold maxYear at most
  unfold writeYear
  split
  · constructor
    · rw [decimal, List.length_map, length_digitsOf]
      decide
    · exact plain_decimal (digitsOf_lt (by decide))
  · have fits : Fits 10 6 year.natAbs := by
      simp only [Fits]
      omega
    have digits : (shortest 10 (year.natAbs + 1) year.natAbs).length ≤ 6 :=
      length_shortest (by decide) fits (by decide)
    have sign : Json.isPlain (if year < 0 then '-' else '+') = true := by
      split <;> decide
    constructor
    · rw [List.length_cons, List.length_map, longYear, length_padded]
      omega
    · exact List.forall_mem_cons.mpr
        ⟨sign, plain_decimal (padded_lt (by decide) (shortest_lt (by decide)))⟩

/-- A fraction takes at most nine digits and a point. -/
theorem plain_writeFraction (nanos : Nat) :
    (writeFraction nanos).length ≤ 10 ∧ ∀ c ∈ writeFraction nanos, Json.isPlain c = true := by
  have point : Json.isPlain '.' = true := by decide
  have digits : ∀ width value, width ≤ 9 → ('.' :: decimal width value).length ≤ 10 ∧
      ∀ c ∈ '.' :: decimal width value, Json.isPlain c = true := by
    intro width value within
    constructor
    · rw [List.length_cons, decimal, List.length_map, length_digitsOf]
      omega
    · exact List.forall_mem_cons.mpr ⟨point, plain_decimal (digitsOf_lt (by decide))⟩
  unfold writeFraction
  split
  · exact ⟨Nat.zero_le 10, fun c member => absurd member List.not_mem_nil⟩
  · split
    · exact digits 3 _ (by decide)
    · split
      · exact digits 6 _ (by decide)
      · exact digits 9 _ (by decide)

/-- The text of an instant is plain, of at most 33 characters. -/
theorem DateTime.plain_rfc3339 {instant : DateTime} (representable : instant.Representable) :
    instant.rfc3339.length ≤ 33 ∧ ∀ c ∈ instant.rfc3339, Json.isPlain c = true := by
  obtain ⟨yearLength, year⟩ := plain_writeYear representable.1 representable.2
  obtain ⟨fractionLength, fraction⟩ := plain_writeFraction (instant.timeOfDay % 1000000000)
  have field : ∀ value, ∀ c ∈ decimal 2 value, Json.isPlain c = true :=
    fun value => plain_decimal (digitsOf_lt (by decide))
  have fieldLength : ∀ value, (decimal 2 value).length = 2 := by
    intro value
    rw [decimal, List.length_map, length_digitsOf]
  have dash : Json.isPlain '-' = true := by decide
  have colon : Json.isPlain ':' = true := by decide
  have separator : Json.isPlain 'T' = true := by decide
  have zone : Json.isPlain 'Z' = true := by decide
  have date : (Date.ofDay instant.day).year = yearOf instant.day := rfl
  rw [← date] at yearLength year
  constructor
  · simp only [DateTime.rfc3339, writeDate, writeTime, List.length_append, List.length_cons,
      List.length_nil, fieldLength]
    omega
  · simp only [DateTime.rfc3339, writeDate, writeTime, List.forall_mem_append, List.forall_mem_cons]
    exact ⟨year, dash, field _, dash, field _, separator, field _, colon, field _, colon, field _,
      fraction, zone, fun c member => absurd member List.not_mem_nil⟩

/-! ## Payloads -/

/-- An identifier with its quotes. -/
theorem Uuid.utf8Len_toJson (id : Uuid) : String.utf8Len (Json.print id.toJson) = 38 := by
  rw [Uuid.toJson, Json.print, Json.utf8Len_quoted id.plain_hyphenated, id.length_hyphenated]

/-- A list of identifiers. -/
theorem utf8Len_idsToJson (ids : List Uuid) :
    String.utf8Len (Json.print (idsToJson ids)) = 38 * ids.length + (ids.length - 1) + 2 := by
  have each : (ids.map Uuid.toJson).map (fun item => String.utf8Len (Json.print item)) =
      ids.map fun _ => 38 := by
    rw [List.map_map]
    exact List.map_congr_left fun id _ => id.utf8Len_toJson
  rw [idsToJson, Json.utf8Len_array, each, List.length_map, List.map_const',
    List.sum_replicate_nat, Nat.mul_comm]

/-- An instant with its quotes. -/
theorem DateTime.utf8Len_toJson {instant : DateTime} (representable : instant.Representable) :
    String.utf8Len (Json.print instant.toJson) ≤ 35 := by
  obtain ⟨count, plain⟩ := DateTime.plain_rfc3339 representable
  rw [DateTime.toJson, Json.print, Json.utf8Len_quoted plain]
  omega

namespace NotificationSignal

/-- How long the payload of a signal is: 39 bytes for each notification it names, and its frame. -/
theorem utf8Len_toJson {signal : NotificationSignal} (sized : signal.Sized)
    (representable : signal.Representable) :
    0 < String.utf8Len signal.toJson.print ∧
      String.utf8Len signal.toJson.print ≤ 39 * signal.facts.length + 124 := by
  have added : String.utf8Len (Json.print (.string "added".toList)) = 7 := by rfl
  have read : String.utf8Len (Json.print (.string "read".toList)) = 6 := by rfl
  have deleted : String.utf8Len (Json.print (.string "deleted".toList)) = 9 := by rfl
  have type : "type".toList.length = 4 := by rfl
  have recipient : "recipient_id".toList.length = 12 := by rfl
  have named := sized.1
  cases signal with
  | added recipientId id =>
    have key : "id".toList.length = 2 := by rfl
    rw [toJson, Json.utf8Len_object (by rfl)]
    simp only [List.map_cons, List.map_nil, List.sum_cons, List.sum_nil, List.length_cons,
      List.length_nil, type, recipient, key, added, Uuid.utf8Len_toJson]
    omega
  | read recipientId ids readAt =>
    have list : "ids".toList.length = 3 := by rfl
    have key : "read_at".toList.length = 7 := by rfl
    have count : (NotificationSignal.read recipientId ids readAt).facts.length = ids.length :=
      List.length_map _
    have instant := DateTime.utf8Len_toJson representable
    rw [toJson, Json.utf8Len_object (by rfl), count]
    simp only [List.map_cons, List.map_nil, List.sum_cons, List.sum_nil, List.length_cons,
      List.length_nil, type, recipient, list, key, read, Uuid.utf8Len_toJson, utf8Len_idsToJson]
    omega
  | deleted recipientId ids =>
    have list : "ids".toList.length = 3 := by rfl
    have count : (NotificationSignal.deleted recipientId ids).facts.length = ids.length :=
      List.length_map _
    rw [toJson, Json.utf8Len_object (by rfl), count]
    simp only [List.map_cons, List.map_nil, List.sum_cons, List.sum_nil, List.length_cons,
      List.length_nil, type, recipient, list, deleted, Uuid.utf8Len_toJson, utf8Len_idsToJson]
    omega

/-- No payload is empty or as long as PostgreSQL refuses. -/
theorem encode_lt {signal : NotificationSignal} (sized : signal.Sized)
    (representable : signal.Representable) :
    0 < signal.encode.utf8ByteSize ∧ signal.encode.utf8ByteSize < pgNotifyPayloadLimit := by
  have bounds := utf8Len_toJson sized representable
  have chunk : signal.facts.length ≤ 150 := sized.2
  rw [encode, String.utf8ByteSize_ofList]
  refine ⟨bounds.1, ?_⟩
  unfold pgNotifyPayloadLimit
  omega

end NotificationSignal

/-! ## What is sent -/

/-- A batch of signals, sent in one statement. -/
def sent (batch : List NotificationSignal) : Σ statement : Statement, statement.Reply :=
  ⟨.pgNotify batch, ()⟩

/-- `signal_all` sends its signals a batch a statement. -/
theorem signalAll_sends (signals : List NotificationSignal)
    (trace : List (Σ statement : Statement, statement.Reply)) :
    Meets traced
      (fun _ after => after = trace ++ (chunks signalsPerStatement signals).map sent)
      (fun _ _ => False) (signalAll signals) trace := by
  let keeps (batches : List (List NotificationSignal))
      (sofar : List (Σ statement : Statement, statement.Reply)) : Prop :=
    sofar ++ batches.map sent = trace ++ (chunks signalsPerStatement signals).map sent
  have loop : Meets traced (fun _ after => keeps [] after) (fun _ _ => False)
      (signalAll signals) trace := by
    refine meets_forM keeps signal (chunks signalsPerStatement signals) rfl ?_
    intro batch rest sofar kept
    refine meets_traced fun _ => ?_
    show sofar ++ [sent batch] ++ rest.map sent = _
    rw [List.append_assoc, List.singleton_append]
    exact kept
  refine loop.mono ?_ fun _ _ none_ => none_
  intro _ after kept
  have all : after ++ [] = trace ++ (chunks signalsPerStatement signals).map sent := kept
  rwa [List.append_nil] at all

/-- Signals in the batches they are sent in: all of them, in order, in as few full statements as
there can be, and every payload one that PostgreSQL takes. -/
structure Batched (signals : List NotificationSignal) (batches : List (List NotificationSignal)) :
    Prop where
  /-- Nothing is left out. -/
  whole : batches.flatten = signals
  /-- There are no more statements than needed. -/
  statements : batches.length = signals.length ⌈/⌉ signalsPerStatement
  /-- PostgreSQL takes every payload. -/
  taken : ∀ payload ∈ signals.map NotificationSignal.encode,
    0 < payload.utf8ByteSize ∧ payload.utf8ByteSize < pgNotifyPayloadLimit

/-- The batches of `signal_all`. -/
theorem batched_chunks {signals : List NotificationSignal}
    (sized : ∀ signal ∈ signals, signal.Sized)
    (representable : ∀ signal ∈ signals, signal.Representable) :
    Batched signals (chunks signalsPerStatement signals) where
  whole := chunks_flatten (by decide) signals
  statements := length_chunks (by decide) signals
  taken := by
    intro payload member
    obtain ⟨signal, inside, rfl⟩ := List.mem_map.mp member
    exact NotificationSignal.encode_lt (sized signal inside) (representable signal inside)

/-- The payloads of a bulk fact: one for each chunk of its ids, which states it of each of them in
order. -/
structure Bulk (ids : List Uuid) (fact : Uuid → Fact) (make : List Uuid → NotificationSignal)
    (signals : List NotificationSignal) : Prop where
  /-- There are no more payloads than needed. -/
  payloads : signals.length = ids.length ⌈/⌉ signalIdChunk
  /-- They state the fact of each id. -/
  facts : signals.flatMap NotificationSignal.facts = ids.map fact
  /-- Each is of a chunk of the ids. -/
  made : ∀ signal ∈ signals, ∃ chunk, signal = make chunk

/-- The signals of the chunks of a bulk fact, and the batches they are sent in. -/
theorem sends_chunks {ids : List Uuid} {fact : Uuid → Fact} {make : List Uuid → NotificationSignal}
    (names : ∀ chunk, (make chunk).facts.length = chunk.length)
    (representable : ∀ chunk, (make chunk).Representable)
    (facts : ((chunks signalIdChunk ids).map make).flatMap NotificationSignal.facts =
      ids.map fact) :
    Meets traced
      (fun _ trace => ∃ signals batches, trace = batches.map sent ∧ Batched signals batches ∧
        Bulk ids fact make signals)
      (fun _ _ => False) (signalAll ((chunks signalIdChunk ids).map make)) [] := by
  have each : ∀ signal ∈ (chunks signalIdChunk ids).map make, signal.Representable := by
    intro signal member
    obtain ⟨chunk, -, rfl⟩ := List.mem_map.mp member
    exact representable chunk
  have batched := batched_chunks (sized_chunks names) each
  have bulk : Bulk ids fact make ((chunks signalIdChunk ids).map make) := by
    refine ⟨?_, facts, ?_⟩
    · rw [List.length_map]
      exact length_chunks (by decide) ids
    · intro signal member
      obtain ⟨chunk, -, same⟩ := List.mem_map.mp member
      exact ⟨chunk, same.symm⟩
  refine (signalAll_sends _ []).mono ?_ fun _ _ none_ => none_
  rintro _ trace rfl
  exact ⟨_, _, List.nil_append _, batched, bulk⟩

/-- No bulk fact is too long for PostgreSQL. Whatever the ids and however many, `signal_read` and
`signal_deleted` make a payload of each chunk of them, and `insert_notifications` one of each row
that its INSERT returns; every payload is taken, and all are sent, in order, a batch a statement. -/
theorem no_bulk_reaches_the_payload_limit (recipientId : Uuid) :
    (∀ (ids : List Uuid) (readAt : DateTime), readAt.Representable →
      Meets traced
        (fun _ trace => ∃ signals batches, trace = batches.map sent ∧ Batched signals batches ∧
          Bulk ids (⟨.read, recipientId, ·⟩) (.read recipientId · readAt) signals)
        (fun _ _ => False) (signalRead recipientId ids readAt) []) ∧
    (∀ ids : List Uuid,
      Meets traced
        (fun _ trace => ∃ signals batches, trace = batches.map sent ∧ Batched signals batches ∧
          Bulk ids (⟨.deleted, recipientId, ·⟩) (.deleted recipientId ·) signals)
        (fun _ _ => False) (signalDeleted recipientId ids) []) ∧
    ∀ (nowV7 : Nat → Uuid) (sourceEventId : Uuid) (recipientIds : List Uuid) (template : String)
      (payload : Value) (link : Option RelativeLink),
      Meets traced
        (fun count trace =>
          ∃ (rows : List (Uuid × Uuid)) (batches : List (List NotificationSignal)),
          trace = ⟨.insert ((List.range recipientIds.length).map nowV7) sourceEventId recipientIds
            template payload (link.map RelativeLink.asStr), rows⟩ :: batches.map sent ∧
          Batched (addedSignals rows) batches ∧ count = rows.length)
        (fun _ _ => False)
        (insertNotifications nowV7 sourceEventId recipientIds template payload link) [] := by
  refine ⟨?_, ?_, ?_⟩
  · intro ids readAt representable
    exact sends_chunks (fun _ => List.length_map _) (fun _ => representable)
      (readSignals_facts recipientId ids readAt)
  · intro ids
    exact sends_chunks (fun _ => List.length_map _) (fun _ => trivial)
      (deletedSignals_facts recipientId ids)
  · intro nowV7 sourceEventId recipientIds template payload link
    refine meets_traced fun rows => ?_
    change Meets traced _ _ (signalAll (addedSignals rows) >>= fun _ =>
      pure (addedSignals rows).length) _
    refine Meets.bind ((signalAll_sends (addedSignals rows) _).mono ?_ fun _ _ none_ => none_)
    rintro _ trace rfl
    have added : ∀ signal ∈ addedSignals rows, signal.Sized ∧ signal.Representable := by
      intro signal member
      obtain ⟨row, -, rfl⟩ := List.mem_map.mp member
      have one : 1 ≤ signalIdChunk := by decide
      exact ⟨⟨Nat.one_pos, one⟩, trivial⟩
    exact ⟨rows, _, rfl, batched_chunks (fun signal member => (added signal member).1)
      fun signal member => (added signal member).2, List.length_map _⟩

/-- One id more than a payload takes. -/
def sampleBulk : List Uuid := (List.range 151).map sampleId

/-- The last instant that chrono has, whose text is the longest. -/
def sampleLast : DateTime := ⟨8210266876799999999999⟩

/-- 151 ids are announced in two payloads. -/
theorem no_bulk_reaches_the_payload_limit_sample :
    sampleLast.rfc3339 = "+262142-12-31T23:59:59.999999999Z".toList ∧
      (readSignals (sampleId 2) sampleBulk sampleLast).length = 2 ∧
      Meets traced
        (fun _ trace => ∃ signals batches, trace = batches.map sent ∧ Batched signals batches ∧
          Bulk sampleBulk (⟨.read, sampleId 2, ·⟩) (.read (sampleId 2) · sampleLast) signals)
        (fun _ _ => False) (signalRead (sampleId 2) sampleBulk sampleLast) [] := by
  have representable : sampleLast.Representable := by decide
  have payloads : (readSignals (sampleId 2) sampleBulk sampleLast).length = 2 := by
    rw [readSignals, List.length_map, length_chunks (by decide), sampleBulk, List.length_map,
      List.length_range]
    rfl
  refine ⟨by decide, payloads, ?_⟩
  generalize sampleBulk = ids
  exact (no_bulk_reaches_the_payload_limit (sampleId 2)).1 ids sampleLast representable

end SvcNotifier
