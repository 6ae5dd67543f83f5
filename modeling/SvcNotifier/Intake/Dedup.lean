import SvcNotifier.Intake.Provenance
import SvcNotifier.Journal

/-!
# First wins, and for how long

The unique index makes the first row of a dedup key win while it is there. A recipient's hard
delete makes the index forget the key, so a redelivered or repeated command creates the
notification again. As long as no INSERT comes to a forgotten key, each key gets one row and
one `Added` over the whole run.
-/

namespace SvcNotifier

open Library Program

/-- The rows a list of writes inserts. -/
def insertedRows (writes : List Write) : List Row :=
  writes.filterMap fun write => match write with
    | .insert row => some row
    | _ => none

@[simp] theorem insertedRows_append (first second : List Write) :
    insertedRows (first ++ second) = insertedRows first ++ insertedRows second :=
  List.filterMap_append

/-- The inserted rows are those of the inserting writes. -/
theorem mem_insertedRows {writes : List Write} {row : Row} :
    row ∈ insertedRows writes ↔ .insert row ∈ writes := by
  simp only [insertedRows, List.mem_filterMap]
  constructor
  · rintro ⟨write, member, same⟩
    cases write with
    | insert new =>
      obtain rfl := Option.some.inj same
      exact member
    | setRead old readAt => contradiction
    | delete old => contradiction
  · exact fun member => ⟨_, member, rfl⟩

namespace Store

variable {store after : Store} {initial : List Row}

/-- Every write there has been, committed or held. -/
def allWrites (store : Store) : List Write := store.history ++ store.held.map Prod.snd

/-- A dedup key that has had a row, which has been removed. -/
def Forgotten (store : Store) (key : Uuid × Uuid) : Prop :=
  store.Created key ∧ key ∉ store.rows.map Row.key

/-- The step is an INSERT coming to a key the index has forgotten. -/
def InsertsForgotten (store : Store) (action : Action) : Prop :=
  ∃ sid index session statement next snapshot targets, ∃ target : Row,
    action = .visit sid index ∧ store.sessions sid = some session ∧
      session.stage = .scanning statement next snapshot targets ∧
      targets[index]? = some target ∧ target ∈ statement.candidates session.now ∧
      store.Forgotten target.key

/-- What a step does to the inserts there have been: it adds none, or the row of an INSERT whose
id is unused and whose key is neither in the table nor held. -/
theorem allWrites_step {action : Action} (sound : Sound initial store)
    (stepped : store.step action = some after) :
    (∃ kept, kept.Sublist (insertedRows store.allWrites) ∧
      (insertedRows after.allWrites).Perm kept) ∨
    ∃ row, insertedRows after.allWrites = insertedRows store.allWrites ++ [row] ∧
      row.id ∉ (insertedRows store.allWrites).map Row.id ∧
      row.key ∉ store.rows.map Row.key ∧
      row.key ∉ (insertedRows (store.held.map Prod.snd)).map Row.key ∧
      (store.Forgotten row.key → store.InsertsForgotten action) := by
  have same : after.allWrites = store.allWrites →
      ∃ kept, kept.Sublist (insertedRows store.allWrites) ∧
        (insertedRows after.allWrites).Perm kept := by
    intro equal
    exact ⟨_, List.Sublist.refl _, equal ▸ List.Perm.refl _⟩
  cases moves_of_step stepped with
  | begin idle unused => exact Or.inl (same rfl)
  | reply found at_ reads => exact Or.inl (same rfl)
  | scan found at_ writes => exact Or.inl (same rfl)
  | finish found at_ => exact Or.inl (same rfl)
  | @visit sid index session statement next snapshot targets target writes found at_ aimed free
      written =>
    have grown : insertedRows ((store.lock sid writes).put sid { session with
        stage := .scanning statement next snapshot (targets.eraseIdx index) }).allWrites =
        insertedRows store.allWrites ++ insertedRows writes := by
      simp [allWrites, lock, put, Function.comp_def]
    rcases visited_cases free written with rfl | ⟨rfl, clear, unused, isWrite, never⟩ |
      ⟨current, present, sameId, selected, -, -, rfl⟩
    · refine Or.inl ⟨_, List.Sublist.refl _, ?_⟩
      rw [grown]
      simp [insertedRows]
    · refine Or.inr ⟨target, grown, ?_, ?_, ?_, ?_⟩
      · simp only [used, Bool.or_eq_false_iff, List.any_eq_false, beq_iff_eq] at unused
        intro taken
        obtain ⟨row, member, onRow⟩ := List.mem_map.mp taken
        rcases List.mem_append.mp (mem_insertedRows.mp member) with old | held
        · exact unused.1 _ old onRow
        · obtain ⟨lock, there, insert⟩ := List.mem_map.mp held
          exact unused.2 lock there (insert ▸ onRow)
      · simp only [conflicts, Bool.or_eq_false_iff, List.any_eq_false, beq_iff_eq] at clear
        intro taken
        obtain ⟨row, member, onKey⟩ := List.mem_map.mp taken
        exact clear.1 row member onKey
      · simp only [conflicts, Bool.or_eq_false_iff, List.any_eq_false, beq_iff_eq] at clear
        intro taken
        obtain ⟨row, member, onKey⟩ := List.mem_map.mp taken
        obtain ⟨lock, there, insert⟩ := List.mem_map.mp (mem_insertedRows.mp member)
        have lockKey : lock.2.key = target.key := insert ▸ onKey
        by_cases own : lock.1 = sid
        · exact clear.2 lock.2 (mem_heldBy.mpr (own ▸ there)) lockKey
        · exact (not_blocked free lock there own).2 lockKey
      · intro forgotten
        have owes := sound.verified sid session found
        simp only [Verified, at_] at owes
        have proposed := (owes.2.2.1 target (List.mem_of_getElem? aimed)).resolve_right
          (by simp [never])
        exact ⟨sid, index, session, statement, next, snapshot, targets, target, rfl, found, at_,
          aimed, proposed, forgotten⟩
    · refine Or.inl ⟨_, List.Sublist.refl _, ?_⟩
      rw [grown]
      cases statement <;> simp [insertedRows, Statement.write, Statement.selects] at selected ⊢
  | @commit sid session answer found at_ =>
    refine Or.inl ⟨_, List.Sublist.refl _, ?_⟩
    have moved : ((store.publish sid session.queued).close sid session.operation
        (.committed answer)).allWrites.Perm store.allWrites := by
      simp only [allWrites, close, publish, List.append_assoc]
      exact (held_perm store sid).symm.append_left store.history
    exact moved.filterMap _
  | @rollback sid session found =>
    refine Or.inl ⟨_, ?_, List.Perm.refl _⟩
    refine List.Sublist.filterMap _ ?_
    exact (List.Sublist.refl store.history).append (List.filter_sublist.map Prod.snd)

/-- Whatever tells inserted rows apart does so after a step that adds no row it has seen. -/
theorem insertedRows_distinct {β : Type} (f : Row → β) {rows later : List Row}
    (distinct : (rows.map f).Nodup)
    (grown : (∃ kept, kept.Sublist rows ∧ later.Perm kept) ∨
      ∃ row, later = rows ++ [row] ∧ f row ∉ rows.map f) : (later.map f).Nodup := by
  rcases grown with ⟨kept, fewer, same⟩ | ⟨row, rfl, fresh⟩
  · exact (same.map f).nodup_iff.mpr ((fewer.map f).nodup distinct)
  · rw [List.map_append, List.nodup_append]
    refine ⟨distinct, List.nodup_singleton _, fun left member right last same => ?_⟩
    rw [List.map_singleton, List.mem_singleton] at last
    exact fresh (last ▸ same ▸ member)

/-- No two inserts there have been are of one id. -/
def IdsOnce (store : Store) : Prop := ((insertedRows store.allWrites).map Row.id).Nodup

/-- No two inserts there have been are of one dedup key. -/
def KeysOnce (store : Store) : Prop := ((insertedRows store.allWrites).map Row.key).Nodup

/-- Every step keeps the inserted ids apart. -/
theorem idsOnce_step {action : Action} (sound : Sound initial store) (once : store.IdsOnce)
    (stepped : store.step action = some after) : after.IdsOnce := by
  refine insertedRows_distinct Row.id once ((allWrites_step sound stepped).imp_right ?_)
  rintro ⟨row, grown, fresh, -⟩
  exact ⟨row, grown, fresh⟩

/-- Every step that comes to no forgotten key keeps the inserted keys apart. -/
theorem keysOnce_step {action : Action} (sound : Sound initial store) (once : store.KeysOnce)
    (stepped : store.step action = some after) (remembered : ¬ store.InsertsForgotten action) :
    after.KeysOnce := by
  refine insertedRows_distinct Row.key once ((allWrites_step sound stepped).imp_right ?_)
  rintro ⟨row, grown, -, absent, unheld, forgotten⟩
  refine ⟨row, grown, fun taken => ?_⟩
  obtain ⟨earlier, member, same⟩ := List.mem_map.mp taken
  rcases List.mem_append.mp (mem_insertedRows.mp member) with old | held
  · exact remembered (forgotten ⟨⟨earlier, old, same⟩, absent⟩)
  · exact unheld (same ▸ List.mem_map_of_mem (mem_insertedRows.mpr held))

/-- How many rows have ever been created under a key. -/
def creations (store : Store) (key : Uuid × Uuid) : Nat :=
  (insertedRows store.history).countP fun row => row.key == key

/-- How many committed `Added` announce a row created under a key. -/
def announcements (store : Store) (key : Uuid × Uuid) : Nat :=
  (store.log.flatMap NotificationSignal.facts).countP fun fact =>
    fact.kind == .added &&
      (insertedRows store.history).any fun row => row.id == fact.id && row.key == key

/-- Each key gets at most one row and one `Added`. -/
def FirstWins (store : Store) : Prop :=
  ∀ key, store.creations key ≤ 1 ∧ store.announcements key ≤ 1

/-- Inserts that are of different keys create one row under each. -/
theorem KeysOnce.creations (once : store.KeysOnce) (key : Uuid × Uuid) :
    store.creations key ≤ 1 := by
  have committed : ((insertedRows store.history).map Row.key).Nodup := by
    refine List.Nodup.sublist (List.Sublist.map Row.key ?_) once
    rw [allWrites, insertedRows_append]
    exact List.sublist_append_left _ _
  have one := List.nodup_iff_count_le_one.mp committed key
  rw [List.count, List.countP_map] at one
  exact one

/-- Every `Added` is of one insert, so there are no more of them than rows created. -/
theorem IdsOnce.announcements (once : store.IdsOnce) (sound : Sound [] store)
    (key : Uuid × Uuid) : store.announcements key ≤ store.creations key := by
  have committed : ((insertedRows store.history).map Row.id).Nodup := by
    refine List.Nodup.sublist (List.Sublist.map Row.id ?_) once
    rw [allWrites, insertedRows_append]
    exact List.sublist_append_left _ _
  have perInsert : store.announcements key = (insertedRows store.history).countP fun row =>
      (insertedRows store.history).any fun other => other.id == row.id && other.key == key := by
    rw [Store.announcements, sound.log_facts, List.countP_map, insertedRows, List.countP_filterMap]
    refine List.countP_congr fun write member => ?_
    cases write with
    | insert row => simp [Write.fact, Write.kind, Write.id, Write.row]
    | setRead row readAt => simp [Write.fact, Write.kind]
    | delete row => simp [Write.fact, Write.kind]
  rw [perInsert]
  refine List.countP_mono_left fun row member announced => ?_
  obtain ⟨other, there, same⟩ := List.any_eq_true.mp announced
  simp only [Bool.and_eq_true, beq_iff_eq] at same ⊢
  -- The ids tell the inserts apart, so the other row is this one.
  rw [← same.2, List.inj_on_of_nodup_map committed there member same.1]

end Store

/-- First wins over a whole run of replicas and callers from the empty table, as long as no
INSERT comes to a key whose row has been removed: each key gets at most one row and at most one
`Added`, however often its command is delivered. -/
theorem first_wins_unless_forgotten (serde : Serde) (errorText : SqlxError → String)
    (intake : Intake)
    (run : Reaches (Intake.step serde errorText)
      (fun intake action => ∀ moved, action = .database moved →
        ¬ intake.store.InsertsForgotten moved) (Intake.start []) intake) :
    intake.store.FirstWins := by
  have keeps : ∀ (before : Intake) (action : Intake.Action) (after : Intake),
      Store.Sound [] before.store ∧ before.store.IdsOnce ∧ before.store.KeysOnce →
      (∀ moved, action = .database moved → ¬ before.store.InsertsForgotten moved) →
      Intake.step serde errorText before action = some after →
      Store.Sound [] after.store ∧ after.store.IdsOnce ∧ after.store.KeysOnce := by
    rintro before action after ⟨sound, ids, keys⟩ remembered stepped
    rcases Intake.store_of_step stepped with same | ⟨moved, step, asked⟩
    · rw [same]
      exact ⟨sound, ids, keys⟩
    · have known : ¬ before.store.InsertsForgotten moved := by
        rcases asked with database | ⟨sid, operation, now, rfl⟩
        · exact remembered moved database
        · rintro ⟨_, _, _, _, _, _, _, _, begins, -⟩
          contradiction
      exact ⟨Store.sound_step sound step, Store.idsOnce_step sound ids step,
        Store.keysOnce_step sound keys step known⟩
  have begun : Store.Sound [] (Intake.start []).store ∧ (Intake.start []).store.IdsOnce ∧
      (Intake.start []).store.KeysOnce :=
    ⟨Store.start_sound .empty, List.nodup_nil, List.nodup_nil⟩
  obtain ⟨sound, ids, keys⟩ := run.invariant keeps begun
  exact fun key => ⟨keys.creations key, (ids.announcements sound key).trans (keys.creations key)⟩

/-- The step visits no target whose key has been forgotten. -/
def visitsRemembered (intake : Intake) : Intake.Action → Bool
  | .database (.visit sid index) => match intake.store.sessions sid with
    | none => true
    | some session => match session.stage with
      | .scanning _ _ _ targets => targets[index]?.toList.all fun target =>
        intake.store.rows.any (fun row => row.key == target.key) ||
          intake.store.history.all fun write => write.key != target.key
      | _ => true
  | _ => true

/-- A step that passes the check is no INSERT that comes to a forgotten key. -/
theorem remembers_of_visitsRemembered (intake : Intake) (action : Intake.Action)
    (checked : visitsRemembered intake action = true) (moved : Store.Action)
    (isMove : action = .database moved) : ¬ intake.store.InsertsForgotten moved := by
  subst isMove
  rintro ⟨sid, index, session, statement, next, snapshot, targets, target, rfl, found, at_, aimed,
    -, ⟨row, inserted, sameKey⟩, absent⟩
  simp only [visitsRemembered, found, at_, aimed, Option.toList_some, List.all_cons, List.all_nil,
    Bool.and_true, Bool.or_eq_true, List.any_eq_true, List.all_eq_true, beq_iff_eq,
    bne_iff_ne] at checked
  rcases checked with ⟨present, there, same⟩ | never
  · exact absent (same ▸ List.mem_map_of_mem there)
  · exact never _ inserted sameKey

/-- Another command for the same event and recipients, with other contents. -/
def sampleDuplicate : Delivered :=
  { payload := .ok { sampleEnvelope with
      commandId := sampleId 8
      payload := .object [("payload", .string "again"),
        ("recipient_ids", .array [.string "00000000-0000-0000-0000-000000000002",
          .string "00000000-0000-0000-0000-000000000003"]),
        ("source_event_id", .string "00000000-0000-0000-0000-000000000001"),
        ("template", .string "reminder")] },
    deliveredCount := some 1 }

/-- A delivery of a frame whose fan-out finds the rows and announces nothing. -/
def sampleRepeat (frame : Delivered) (sid first : Nat) : List Intake.Action :=
  [.deliver 0 frame, .openFanOut 0 sid (fun i => sampleId (i + first)) ⟨0⟩,
    .database (.advance sid), .database (.visit sid 0), .database (.visit sid 0),
    .database (.finish sid), .database (.commit sid), .fanOutReturns 0, .settle 0 true, .finish 0]

/-- The ack of a frame is lost and the frame is delivered again; then the duplicate is delivered;
then one of the recipients deletes the notification. -/
def sampleRemembered : List Intake.Action :=
  sampleDelivery 0 10 ++ [.settle 0 false, .finish 0] ++ sampleRepeat sampleFrame 1 20 ++
    sampleRepeat sampleDuplicate 2 30 ++
    [.begin 3 (.deleteNotification (sampleId 2) (sampleId 10)) ⟨1000⟩, .advance 3, .advance 3,
      .visit 3 0, .finish 3, .advance 3, .commit 3].map .database

/-- Each of the recipients has had one row. -/
theorem first_wins_unless_forgotten_sample :
    ∃ intake, play sampleStep (Intake.start []) sampleRemembered = some intake ∧
      intake.store.FirstWins ∧ intake.store.creations (sampleId 1, sampleId 2) = 1 ∧
      intake.ended.length = 3 ∧ intake.store.rows.map Row.id = [sampleId 11] := by
  refine ⟨_, (Option.some_get (by decide +kernel)).symm, ?_, by decide +kernel⟩
  have played : play (fun intake action => if visitsRemembered intake action then
      sampleStep intake action else none) (Intake.start []) sampleRemembered = some _ := rfl
  exact first_wins_unless_forgotten sampleSerde (fun _ => "") _
    ⟨_, steps_of_checked_play played remembers_of_visitsRemembered⟩

/-- The ack of a frame is lost, one of its recipients deletes the notification, and the frame is
delivered again. -/
def sampleRedelivery : List Intake.Action :=
  sampleDelivery 0 10 ++ [.settle 0 false, .finish 0,
    .database (.begin 1 (.deleteNotification (sampleId 2) (sampleId 10)) ⟨1000⟩),
    .database (.advance 1), .database (.advance 1), .database (.visit 1 0),
    .database (.finish 1), .database (.advance 1), .database (.commit 1)] ++
  sampleDelivery 2 20

/-- The intake the redelivery leads to. -/
def sampleRedelivered : Intake :=
  (play sampleStep (Intake.start []) sampleRedelivery).get (by decide)

/-- The deleted notification comes back: its key has had two rows and two `Added`. -/
theorem deleted_notification_comes_back :
    ¬ ∀ intake, Intake.Reachable sampleSerde (fun _ => "") .empty intake →
      intake.store.FirstWins := by
  intro always
  have reached : Intake.Reachable sampleSerde (fun _ => "") .empty sampleRedelivered :=
    reaches_of_play (Option.some_get _).symm
  have once := (always sampleRedelivered reached (sampleId 1, sampleId 2)).1
  have twice : sampleRedelivered.store.creations (sampleId 1, sampleId 2) = 2 := by decide
  omega

end SvcNotifier
