import SvcNotifier.ReadTimes
import SvcNotifier.Wire

/-!
# Signals as payloads

`signal` serializes every signal it sends, and `listen_loop` deserializes every payload it
receives, perhaps in another instance. The enum is internally tagged: a tag named `type` beside
the fields of the variant. Every signal is decoded from its own payload, and so is every signal
that a transaction commits.
-/

namespace SvcNotifier

open Library

/-! ## Serialization -/

/-- An identifier is serialized as its text. -/
def Uuid.toJson (id : Uuid) : Json := .string id.hyphenated.toList

/-- A list of identifiers. -/
def idsToJson (ids : List Uuid) : Json := .array (ids.map Uuid.toJson)

/-- An instant is serialized as its text. -/
def DateTime.toJson (instant : DateTime) : Json := .string instant.rfc3339

namespace NotificationSignal

/-- The tag of a signal and the fields of its variant, in order. -/
def toJson : NotificationSignal → Json
  | .added recipientId id => .object
    [("type".toList, .string "added".toList), ("recipient_id".toList, recipientId.toJson),
      ("id".toList, id.toJson)]
  | .read recipientId ids readAt => .object
    [("type".toList, .string "read".toList), ("recipient_id".toList, recipientId.toJson),
      ("ids".toList, idsToJson ids), ("read_at".toList, readAt.toJson)]
  | .deleted recipientId ids => .object
    [("type".toList, .string "deleted".toList), ("recipient_id".toList, recipientId.toJson),
      ("ids".toList, idsToJson ids)]

/-- `serde_json::to_string`: the payload that `signal` sends. -/
def encode (signal : NotificationSignal) : String := String.ofList signal.toJson.print

end NotificationSignal

/-! ## Deserialization -/

/-- An identifier, from any text that `uuid` parses. -/
def Uuid.ofJson : Json → Option Uuid
  | .string text => Uuid.parseStr text
  | _ => none

/-- A list of identifiers. -/
def idsOfJson : Json → Option (List Uuid)
  | .array items => items.mapM Uuid.ofJson
  | _ => none

/-- An instant, from any text that chrono parses. -/
def DateTime.ofJson : Json → Option DateTime
  | .string text => DateTime.parse text
  | _ => none

/-- The member of an object with a key; a key that is missing or there twice is an error. -/
def uniqueMember (members : List (List Char × Json)) (key : List Char) : Option Json :=
  match members.filter fun member => member.1 == key with
  | [member] => some member.2
  | _ => none

/-- The tag of an object, by its key, or of an array, its first item. -/
def tagOf : Json → Option Json
  | .object members => uniqueMember members "type".toList
  | .array items => items.head?
  | _ => none

/-- The fields of a variant: those of an object by their keys, others ignored, or the items of an
array after its tag, none left over. -/
def fieldsOf (names : List (List Char)) : Json → Option (List Json)
  | .object members => names.mapM (uniqueMember members)
  | .array items => if items.length = names.length + 1 then some items.tail else none
  | _ => none

namespace NotificationSignal

/-- The derived `Deserialize` of an internally tagged enum. -/
def ofJson (json : Json) : Option NotificationSignal := do
  let tag ← tagOf json
  match tag with
  | .string tag =>
    if tag = "added".toList then
      match ← fieldsOf ["recipient_id".toList, "id".toList] json with
      | [recipientId, id] => some (.added (← Uuid.ofJson recipientId) (← Uuid.ofJson id))
      | _ => none
    else if tag = "read".toList then
      match ← fieldsOf ["recipient_id".toList, "ids".toList, "read_at".toList] json with
      | [recipientId, ids, readAt] =>
        some (.read (← Uuid.ofJson recipientId) (← idsOfJson ids) (← DateTime.ofJson readAt))
      | _ => none
    else if tag = "deleted".toList then
      match ← fieldsOf ["recipient_id".toList, "ids".toList] json with
      | [recipientId, ids] => some (.deleted (← Uuid.ofJson recipientId) (← idsOfJson ids))
      | _ => none
    else none
  | _ => none

/-- How deep `serde_json` lets a text be nested. -/
def nestingLimit : Nat := 127

/-- `serde_json::from_str`: what `listen_loop` makes of a payload; `none` is the branch that drops
it. Only a number can be read here that `serde_json` refuses, one beyond the binary64 range. -/
def decode (payload : String) : Option NotificationSignal :=
  (Json.parse nestingLimit payload.toList).bind ofJson

/-- The instant of a signal, if it has one, is one that chrono has. -/
def Representable : NotificationSignal → Prop
  | .read _ _ readAt => readAt.Representable
  | _ => True

end NotificationSignal

/-! ## Round trip -/

/-- An identifier is deserialized from its JSON. -/
theorem Uuid.ofJson_toJson (id : Uuid) : Uuid.ofJson id.toJson = some id :=
  Uuid.parseStr_hyphenated id

/-- A list of identifiers is read back. -/
theorem idsOfJson_idsToJson (ids : List Uuid) : idsOfJson (idsToJson ids) = some ids := by
  show (ids.map Uuid.toJson).mapM Uuid.ofJson = some ids
  induction ids with
  | nil => rfl
  | cons id ids ih =>
    rw [List.map_cons, List.mapM_cons, Uuid.ofJson_toJson, ih]
    rfl

/-- An instant is deserialized from its JSON. -/
theorem DateTime.ofJson_toJson {instant : DateTime} (representable : instant.Representable) :
    DateTime.ofJson instant.toJson = some instant :=
  DateTime.parse_rfc3339 representable

namespace NotificationSignal

/-- A signal is nested two deep. -/
theorem proper_toJson (signal : NotificationSignal) (depth : Nat) :
    Json.Proper (depth + 2) signal.toJson := by
  have text : ∀ characters, Json.Proper (depth + 1) (.string characters) := fun _ => trivial
  have list : ∀ ids, Json.Proper (depth + 1) (idsToJson ids) := by
    intro ids item member
    obtain ⟨id, -, rfl⟩ := List.mem_map.mp member
    cases depth <;> exact trivial
  cases signal with
  | added recipientId id =>
    exact List.forall_mem_cons.mpr ⟨text _, List.forall_mem_cons.mpr ⟨text _,
      List.forall_mem_singleton.mpr (text _)⟩⟩
  | read recipientId ids readAt =>
    exact List.forall_mem_cons.mpr ⟨text _, List.forall_mem_cons.mpr ⟨text _,
      List.forall_mem_cons.mpr ⟨list ids, List.forall_mem_singleton.mpr (text _)⟩⟩⟩
  | deleted recipientId ids =>
    exact List.forall_mem_cons.mpr ⟨text _, List.forall_mem_cons.mpr ⟨text _,
      List.forall_mem_singleton.mpr (list ids)⟩⟩

/-- A signal is deserialized from its JSON. -/
theorem ofJson_toJson {signal : NotificationSignal} (representable : signal.Representable) :
    ofJson signal.toJson = some signal := by
  cases signal with
  | added recipientId id =>
    have tag : tagOf (toJson (.added recipientId id)) = some (.string "added".toList) := by rfl
    have fields : fieldsOf ["recipient_id".toList, "id".toList] (toJson (.added recipientId id)) =
        some [recipientId.toJson, id.toJson] := by rfl
    simp only [ofJson, tag, Option.bind_eq_bind, Option.bind_some, if_true, fields,
      Uuid.ofJson_toJson]
  | read recipientId ids readAt =>
    have tag : tagOf (toJson (.read recipientId ids readAt)) =
      some (.string "read".toList) := by rfl
    have unadded : "read".toList ≠ "added".toList := by decide
    have fields : fieldsOf ["recipient_id".toList, "ids".toList, "read_at".toList]
        (toJson (.read recipientId ids readAt)) =
          some [recipientId.toJson, idsToJson ids, readAt.toJson] := by rfl
    have at_ : DateTime.ofJson readAt.toJson = some readAt := DateTime.ofJson_toJson representable
    simp only [ofJson, tag, Option.bind_eq_bind, Option.bind_some, if_neg unadded, if_true, fields,
      Uuid.ofJson_toJson, idsOfJson_idsToJson, at_]
  | deleted recipientId ids =>
    have tag : tagOf (toJson (.deleted recipientId ids)) = some (.string "deleted".toList) := by rfl
    have unadded : "deleted".toList ≠ "added".toList := by decide
    have unread : "deleted".toList ≠ "read".toList := by decide
    have fields : fieldsOf ["recipient_id".toList, "ids".toList]
        (toJson (.deleted recipientId ids)) = some [recipientId.toJson, idsToJson ids] := by rfl
    simp only [ofJson, tag, Option.bind_eq_bind, Option.bind_some, if_neg unadded, if_neg unread,
      if_true, fields, Uuid.ofJson_toJson, idsOfJson_idsToJson]

/-- A signal is decoded from its payload. -/
theorem decode_encode {signal : NotificationSignal} (representable : signal.Representable) :
    decode signal.encode = some signal := by
  have parsed : Json.parse nestingLimit signal.toJson.print = some signal.toJson :=
    Json.parse_print (proper_toJson signal 125)
  rw [decode, encode, String.toList_ofList, parsed, Option.bind_some]
  exact ofJson_toJson representable

/-- Distinct signals have distinct payloads. -/
theorem encode_injective {left right : NotificationSignal} (isLeft : left.Representable)
    (isRight : right.Representable) (same : left.encode = right.encode) : left = right := by
  have read := decode_encode isLeft
  rw [same, decode_encode isRight] at read
  exact (Option.some.inj read).symm

end NotificationSignal

/-- Queue payloads: PostgreSQL compares the texts of two notifications. -/
def queuePayloads (queued payloads : List String) : List String :=
  payloads.foldl (fun queued payload => if payload ∈ queued then queued else queued ++ [payload])
    queued

/-- Folding equal payloads, as PostgreSQL does, folds equal signals. -/
theorem queueSignals_encode {queued signals : List NotificationSignal}
    (old : ∀ signal ∈ queued, signal.Representable)
    (new : ∀ signal ∈ signals, signal.Representable) :
    (queueSignals queued signals).map NotificationSignal.encode =
      queuePayloads (queued.map NotificationSignal.encode)
        (signals.map NotificationSignal.encode) := by
  induction signals generalizing queued with
  | nil => rfl
  | cons signal signals ih =>
    rw [List.forall_mem_cons] at new
    have there : signal.encode ∈ queued.map NotificationSignal.encode ↔ signal ∈ queued := by
      constructor
      · intro payload
        obtain ⟨other, member, same⟩ := List.mem_map.mp payload
        rwa [← NotificationSignal.encode_injective (old other member) new.1 same]
      · exact fun member => List.mem_map_of_mem member
    by_cases again : signal ∈ queued
    · calc (queueSignals queued (signal :: signals)).map NotificationSignal.encode
          = (queueSignals queued signals).map NotificationSignal.encode :=
            congrArg (fun start => (queueSignals start signals).map _) (if_pos again)
        _ = queuePayloads (queued.map NotificationSignal.encode)
              (signals.map NotificationSignal.encode) := ih old new.2
        _ = _ := (congrArg (fun start => queuePayloads start _) (if_pos (there.mpr again))).symm
    · have both : ∀ other ∈ queued ++ [signal], other.Representable :=
        List.forall_mem_append.mpr ⟨old, List.forall_mem_singleton.mpr new.1⟩
      have next := ih both new.2
      rw [List.map_append, List.map_singleton] at next
      calc (queueSignals queued (signal :: signals)).map NotificationSignal.encode
          = (queueSignals (queued ++ [signal]) signals).map NotificationSignal.encode :=
            congrArg (fun start => (queueSignals start signals).map _) (if_neg again)
        _ = queuePayloads (queued.map NotificationSignal.encode ++ [signal.encode])
              (signals.map NotificationSignal.encode) := next
        _ = _ := (congrArg (fun start => queuePayloads start _)
              (if_neg fun payload => again (there.mp payload))).symm

/-! ## What the listener receives -/

/-- The clocks that an operation reads give instants that chrono has. -/
def Operation.Timely (now : DateTime) : Operation → Prop
  | .markAllAsRead utcNow _ => now.Representable ∧ utcNow.Representable
  | _ => now.Representable

/-- The clocks of the operation that a step of the database begins can be written down. -/
def Store.Action.Timely : Store.Action → Prop
  | .begin _ operation now => operation.Timely now
  | _ => True

/-- The clocks of the operation that a step of the hub begins can be written down. -/
def Realtime.Action.Timely : Realtime.Action → Prop
  | .database action => action.Timely
  | _ => True

instance (now : DateTime) (operation : Operation) : Decidable (operation.Timely now) :=
  match operation with
  | .markAllAsRead utcNow _ =>
    inferInstanceAs (Decidable (now.Representable ∧ utcNow.Representable))
  | .fanOut .. => inferInstanceAs (Decidable now.Representable)
  | .notifications .. => inferInstanceAs (Decidable now.Representable)
  | .unreadCount .. => inferInstanceAs (Decidable now.Representable)
  | .markAsRead .. => inferInstanceAs (Decidable now.Representable)
  | .deleteNotification .. => inferInstanceAs (Decidable now.Representable)
  | .deleteNotifications .. => inferInstanceAs (Decidable now.Representable)

/-- A step is timely, as a test. -/
def Realtime.Action.isTimely : Realtime.Action → Bool
  | .database (.begin _ operation now) => decide (operation.Timely now)
  | _ => true

/-- What passes the test is timely. -/
theorem Realtime.Action.timely_of_isTimely {action : Realtime.Action}
    (passed : action.isTimely = true) : action.Timely := by
  cases action with
  | database action =>
    cases action with
    | begin sid operation now =>
      have timely : operation.Timely now := of_decide_eq_true passed
      exact timely
    | _ => exact trivial
  | _ => exact trivial

/-- A column keeps the day of an instant. -/
theorem DateTime.representable_timestamptz {instant : DateTime}
    (representable : instant.Representable) : instant.timestamptz.Representable := by
  have same : instant.timestamptz.day = instant.day := by
    show instant.nanos / 1000 * 1000 / 86400000000000 + 719162 =
      instant.nanos / 86400000000000 + 719162
    omega
  rw [DateTime.Representable, same]
  exact representable

/-- What an operation announces, chrono has. -/
theorem Operation.Timely.announced {operation : Operation} {now readAt : DateTime}
    (timely : operation.Timely now) (announced : operation.announcedReadAt now = some readAt) :
    readAt.Representable := by
  cases operation with
  | markAsRead caller id =>
    rw [← Option.some.inj announced]
    exact DateTime.representable_timestamptz timely
  | markAllAsRead utcNow caller =>
    rw [← Option.some.inj announced]
    exact timely.2
  | _ => contradiction

namespace Store

/-- Every transaction reads its clocks in time, and every committed signal is one that can be
decoded. -/
structure Decodable (store : Store) : Prop where
  /-- Every clock that is read can be written down. -/
  timely : ∀ sid session, store.sessions sid = some session → session.operation.Timely session.now
  /-- Every committed signal can be decoded. -/
  committed : ∀ signal ∈ store.log, signal.Representable

variable {store after : Store} {initial : List Row}

/-- A session that goes on is still timely. -/
theorem Decodable.put (decodable : store.Decodable) (sid : Nat) {session : Session}
    (timely : session.operation.Timely session.now) : (store.put sid session).Decodable where
  timely := by
    intro other current found
    by_cases here : other = sid
    · subst here
      rw [put_sessions_self] at found
      obtain rfl := Option.some.inj found
      exact timely
    · rw [put_sessions_other store here] at found
      exact decodable.timely other current found
  committed := decodable.committed

/-- A session that is closed is no more. -/
theorem Decodable.close (decodable : store.Decodable) (sid : Nat) (operation : Operation)
    (outcome : Outcome) : (store.close sid operation outcome).Decodable where
  timely := by
    intro other current found
    by_cases here : other = sid
    · subst here
      have closed : (store.close other operation outcome).sessions other = none := by
        simp [Store.close]
      rw [closed] at found
      contradiction
    · have left : (store.close sid operation outcome).sessions other = store.sessions other := by
        simp [Store.close, here]
      rw [left] at found
      exact decodable.timely other current found
  committed := decodable.committed

/-- A step of a timely run keeps it. -/
theorem decodable_step {action : Action} (stamped : AllVerified Stamps store)
    (decodable : store.Decodable) (timely : action.Timely)
    (stepped : store.step action = some after) :
    after.Decodable := by
  cases moves_of_step stepped with
  | @begin sid operation now idle unused => exact decodable.put sid timely
  | @reply sid session statement next found at_ reads =>
    exact decodable.put sid (decodable.timely sid session found)
  | @scan sid session statement next found at_ writes =>
    exact decodable.put sid (decodable.timely sid session found)
  | @visit sid index session statement next snapshot targets target writes found at_ aimed free
      written =>
    have locked : (store.lock sid writes).Decodable := ⟨decodable.timely, decodable.committed⟩
    exact locked.put sid (decodable.timely sid session found)
  | @finish sid session statement next snapshot found at_ =>
    exact decodable.put sid (decodable.timely sid session found)
  | @commit sid session answer found at_ =>
    have stamps := stamped.at_commit found at_ answer rfl
    have queued : ∀ signal ∈ session.queued, signal.Representable := by
      intro signal member
      cases signal with
      | added recipientId id => exact trivial
      | deleted recipientId ids => exact trivial
      | read recipientId ids readAt =>
        exact (decodable.timely sid session found).announced (stamps recipientId ids readAt member)
    have published : (store.publish sid session.queued).Decodable :=
      ⟨decodable.timely, List.forall_mem_append.mpr ⟨decodable.committed, queued⟩⟩
    exact published.close sid session.operation _
  | @rollback sid session found => exact decodable.close sid session.operation _

end Store

/-- Every step of a timely run of a hub keeps it. -/
theorem Realtime.decodable_step {hub after : Realtime} {action : Realtime.Action}
    {initial : List Row} (timed : hub.Timed initial) (decodable : hub.store.Decodable)
    (timely : action.Timely) (stepped : hub.step action = some after) : after.store.Decodable := by
  cases moves_of_step stepped with
  | @database action store moved => exact Store.decodable_step timed.stamped decodable timely moved
  | @run failure signal request next at_ =>
    show (hub.perform signal request (hub.answer failure request)).store.Decodable
    rw [perform_store]
    exact decodable
  | _ => exact decodable

/-- The codec of signals. Each signal is decoded from its own payload, its instant to the
nanosecond; distinct signals have distinct payloads, so the texts that PostgreSQL folds are those
of equal signals; and in every run, whatever transactions commit, the listener decodes every
committed payload to the signal it was made from. -/
theorem signals_survive_the_wire :
    (∀ signal : NotificationSignal, signal.Representable →
      NotificationSignal.decode signal.encode = some signal) ∧
    (∀ left right : NotificationSignal, left.Representable → right.Representable →
      left ≠ right → left.encode ≠ right.encode) ∧
    (∀ queued signals : List NotificationSignal, (∀ signal ∈ queued, signal.Representable) →
      (∀ signal ∈ signals, signal.Representable) →
      (queueSignals queued signals).map NotificationSignal.encode =
        queuePayloads (queued.map NotificationSignal.encode)
          (signals.map NotificationSignal.encode)) ∧
    ∀ (table : Notifications) (hub : Realtime),
      Reaches Realtime.step (fun _ action => action.Timely) (Realtime.start table.rows) hub →
      (hub.store.log.map NotificationSignal.encode).map NotificationSignal.decode =
        hub.store.log.map some := by
  refine ⟨fun signal => NotificationSignal.decode_encode, ?_,
    fun queued signals => queueSignals_encode, ?_⟩
  · intro left right isLeft isRight distinct same
    exact distinct (NotificationSignal.encode_injective isLeft isRight same)
  · intro table hub run
    have keeps : ∀ (s : Realtime) (a : Realtime.Action) (t : Realtime),
        s.Timed table.rows ∧ s.store.Decodable → a.Timely → s.step a = some t →
        t.Timed table.rows ∧ t.store.Decodable := by
      rintro s a t ⟨timed, decodable⟩ timely stepped
      exact ⟨Realtime.timed_step timed stepped,
        Realtime.decodable_step timed decodable timely stepped⟩
    have begun : (Realtime.start table.rows).store.Decodable := by
      constructor
      · intro sid session found
        contradiction
      · intro signal member
        contradiction
    have decodable := (run.invariant keeps ⟨Realtime.start_timed table, begun⟩).2
    rw [List.map_map]
    exact List.map_congr_left fun signal member =>
      NotificationSignal.decode_encode (decodable.committed signal member)

/-- A `markAllAsRead` that reads its clock between two microseconds, with its commit. -/
def sampleFineRun : List Realtime.Action := sampleMarkingAll sampleFine ++ [.database (.commit 0)]

/-- The hub it leads to, from a table with an unread notification. -/
def sampleFineDone : Realtime :=
  (play Realtime.step (Realtime.start sampleUnread.rows) sampleFineRun).get (by decide)

/-- A mark announces the instant that it has read, and the listener decodes it; the same payload
is queued but once. -/
theorem signals_survive_the_wire_sample :
    NotificationSignal.decode (NotificationSignal.read (sampleId 2) [] sampleFine).encode =
        some (.read (sampleId 2) [] sampleFine) ∧
      (NotificationSignal.deleted (sampleId 2) []).encode ≠
        (NotificationSignal.deleted (sampleId 3) []).encode ∧
      [(NotificationSignal.read (sampleId 2) [] sampleFine).encode] =
        queuePayloads [(NotificationSignal.read (sampleId 2) [] sampleFine).encode]
          [(NotificationSignal.read (sampleId 2) [] sampleFine).encode] ∧
      sampleFineDone.store.log = [.read (sampleId 2) [sampleId 7] sampleFine] ∧
      (sampleFineDone.store.log.map NotificationSignal.encode).map NotificationSignal.decode =
        sampleFineDone.store.log.map some := by
  have played : play (fun hub action => if action.isTimely then Realtime.step hub action else none)
      (Realtime.start sampleUnread.rows) sampleFineRun = some sampleFineDone := by rfl
  have run := steps_of_checked_play played fun _ _ => Realtime.Action.timely_of_isTimely
  have representable : sampleFine.Representable := by decide
  have one : ∀ signal ∈ [NotificationSignal.read (sampleId 2) [] sampleFine],
      signal.Representable := List.forall_mem_singleton.mpr representable
  have codec := signals_survive_the_wire
  exact ⟨codec.1 _ representable, codec.2.1 _ _ trivial trivial (by decide),
    codec.2.2.1 _ _ one one, by decide, codec.2.2.2 sampleUnread sampleFineDone ⟨_, run⟩⟩

end SvcNotifier
