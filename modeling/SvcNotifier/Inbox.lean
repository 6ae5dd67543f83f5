import SvcNotifier.Announcement
import SvcNotifier.Consistency

/-!
# One recipient's inbox

What the GraphQL surface is for, told for one recipient as if nobody else had notifications:
each query and mutation is a function of the recipient's own rows, to an answer and to the
writes it makes on them. The programs of the resolvers are then run against a contract that
knows only the recipient's rows: what a statement sees besides, what else the policy lets
through and in which order the rows come is left open.
-/

namespace SvcNotifier

open Library Program

namespace Inbox

/-- The page a list of rows is answered with. -/
def page (inbox : List Row) (caller : Uuid) (first : Int32) (after : Option Uuid) :
    Except EdgeError Answer :=
  let limit := clampFirst first.toInt
  let rows := (listed inbox caller after).take (limit + 1).toNat
  match hydrateAll (rows.take limit.toNat) with
  | .ok nodes =>
    .ok (.connection (nodes.map NotificationNode.from) (decide (limit < (rows.length : Int))))
  | .error error => .error (dbError (corrupt error))

/-- The inbox holds a notification. -/
def holds (inbox : List Row) (id : Uuid) : Bool := inbox.any fun row => row.id == id

/-- What a query or mutation of the inbox's owner is answered. -/
def answer (inbox : List Row) : Operation → Option (Except EdgeError Answer)
  | .fanOut .. => none
  | .notifications caller first none => some (page inbox caller first none)
  | .notifications caller first (some cursor) =>
    some (if holds inbox cursor then page inbox caller first (some cursor) else .error .notFound)
  | .unreadCount _ => some (.ok (.count
      (Int32.ofInt (Int.ofNat (inbox.filter fun row => row.readAt.isNone).length)).toInt))
  | .markAsRead _ id => some (if holds inbox id then .ok .ack else .error .notFound)
  | .markAllAsRead .. => some (.ok .ack)
  | .deleteNotification _ id => some (if holds inbox id then .ok .ack else .error .notFound)
  | .deleteNotifications .. => some (.ok .ack)

/-- The writes of a statement on the rows of an inbox. -/
def made (now : DateTime) (inbox : List Row) (statement : Statement) : List Write :=
  (inbox.filter statement.selects).map (statement.write now)

/-- The writes a query or mutation makes in the inbox. -/
def writes (now : DateTime) (inbox : List Row) (operation : Operation) : List Write :=
  match operation.writing with
  | none => []
  | some statement => made now inbox statement

/-- An inbox holds rows of one recipient, within the constraints of the table. -/
structure Of (recipientId : Uuid) (inbox : List Row) : Prop where
  /-- Every row is the recipient's. -/
  own : ∀ row ∈ inbox, row.recipientId = recipientId
  /-- The constraints hold. -/
  unique : Unique inbox

/-- An inbox is what a list of rows has of its recipient. -/
def Mirrors (recipientId : Uuid) (inbox rows : List Row) : Prop :=
  ∀ row, row ∈ inbox ↔ row ∈ rows ∧ row.recipientId = recipientId

variable {recipientId : Uuid} {inbox rows : List Row}

/-! ## What a statement sees of the inbox -/

/-- Which row a cursor names does not depend on the rows of others. -/
theorem Mirrors.anchorRow_eq (mirrors : Mirrors recipientId inbox rows)
    (of : Of recipientId inbox) (ids : (rows.map Row.id).Nodup) (id : Uuid) :
    anchorRow rows recipientId id = anchorRow inbox recipientId id := by
  apply Option.ext
  intro row
  rw [anchorRow_eq_some ids, anchorRow_eq_some of.unique.ids, mirrors row]
  constructor
  · rintro ⟨member, sameId, sameRecipient⟩
    exact ⟨⟨member, sameRecipient⟩, sameId, sameRecipient⟩
  · rintro ⟨⟨member, -⟩, sameId, sameRecipient⟩
    exact ⟨member, sameId, sameRecipient⟩

/-- In its owner's inbox, a cursor names a row when the inbox holds it. -/
theorem isSome_anchorRow_eq (of : Of recipientId inbox) (id : Uuid) :
    (anchorRow inbox recipientId id).isSome = holds inbox id := by
  rw [Bool.eq_iff_iff, anchorRow, List.find?_isSome, holds, List.any_eq_true]
  constructor
  · rintro ⟨row, member, named⟩
    simp only [Bool.and_eq_true] at named
    exact ⟨row, member, named.1⟩
  · rintro ⟨row, member, named⟩
    exact ⟨row, member, by simp [named, of.own row member]⟩

/-- The row a cursor names is all that bears its id. -/
theorem filter_anchorRow (ids : (rows.map Row.id).Nodup) (id : Uuid) :
    (rows.filter fun row => row.id == id && row.recipientId == recipientId) =
      (anchorRow rows recipientId id).toList := by
  induction rows with
  | nil => rfl
  | cons row rows ih =>
    rw [List.map_cons, List.nodup_cons] at ids
    rw [anchorRow, List.filter_cons, List.find?_cons]
    by_cases named : (row.id == id && row.recipientId == recipientId) = true
    · rw [if_pos named, named]
      have none_ :
          rows.filter (fun row => row.id == id && row.recipientId == recipientId) = [] := by
        rw [List.filter_eq_nil_iff]
        intro other member same
        simp only [Bool.and_eq_true, beq_iff_eq] at named same
        apply ids.1
        rw [named.1, ← same.1]
        exact List.mem_map_of_mem member
      rw [none_]
      rfl
    · rw [if_neg named, Bool.eq_false_iff.mpr named]
      exact ih ids.2

/-- What a condition on the recipient's rows selects is the same, up to order, whatever other
rows are there. -/
theorem Mirrors.filter_perm (mirrors : Mirrors recipientId inbox rows) (of : Of recipientId inbox)
    (ids : (rows.map Row.id).Nodup) (left right : Row → Bool)
    (same : ∀ row, row.recipientId = recipientId → left row = right row)
    (owned : ∀ row, left row = true → row.recipientId = recipientId) :
    (rows.filter left).Perm (inbox.filter right) := by
  rw [List.perm_ext_iff_of_nodup (ids.of_map.filter _) (of.unique.ids.of_map.filter _)]
  intro row
  rw [List.mem_filter, List.mem_filter, mirrors row]
  constructor
  · rintro ⟨member, selected⟩
    have own := owned row selected
    exact ⟨⟨member, own⟩, same row own ▸ selected⟩
  · rintro ⟨⟨member, own⟩, selected⟩
    exact ⟨member, (same row own).symm ▸ selected⟩

/-- Rows told apart by their ids are listed in one order only. -/
theorem newestFirst_perm {others : List Row} (ids : (rows.map Row.id).Nodup)
    (same : rows.Perm others) : newestFirst rows = newestFirst others := by
  have sorted := List.perm_insertionSort fun left right : Row => right.position ≤ left.position
  refine List.Perm.eq_of_pairwise ?_ (List.pairwise_insertionSort _ rows)
    (List.pairwise_insertionSort _ others) (((sorted rows).trans same).trans (sorted others).symm)
  intro left right inLeft inRight below above
  have position : left.position = right.position := le_antisymm above below
  have id : left.id = right.id := congrArg (fun position => (ofLex position).2) position
  exact List.inj_on_of_nodup_map ids ((sorted rows).mem_iff.mp inLeft)
    (same.mem_iff.mpr ((sorted others).mem_iff.mp inRight)) id

/-- The rows a page query lists do not depend on the rows of others. -/
theorem Mirrors.listed_eq (mirrors : Mirrors recipientId inbox rows) (of : Of recipientId inbox)
    (ids : (rows.map Row.id).Nodup) (after : Option Uuid) :
    listed rows recipientId after = listed inbox recipientId after := by
  have below : ∀ row, belowCursor rows recipientId after row =
      belowCursor inbox recipientId after row := by
    intro row
    cases after with
    | none => rfl
    | some cursor =>
      simp only [belowCursor]
      rw [mirrors.anchorRow_eq of ids cursor]
  refine newestFirst_perm (ids.sublist (List.filter_sublist.map Row.id)) ?_
  apply mirrors.filter_perm of ids
  · intro row own
    rw [below row]
  · intro row selected
    simp only [Bool.and_eq_true, beq_iff_eq] at selected
    exact selected.1

/-! ## The operations on an inbox -/

/-- A statement asks only for rows of the recipient. -/
def Asks (recipientId : Uuid) : Statement → Prop
  | .setConfig userId => userId = recipientId
  | .insert .. => False
  | .anchor _ owner => owner = recipientId
  | .page owner _ _ => owner = recipientId
  | .countUnread owner => owner = recipientId
  | .markRead _ owner => owner = recipientId
  | .markAllRead _ owner => owner = recipientId
  | .delete _ owner => owner = recipientId
  | .select _ owner => owner = recipientId
  | .pgNotify _ => True

/-- What statements do when the inbox is all that is known of the table. The first sets the
caller, and all others see the inbox among what they see. -/
def contract (recipientId : Uuid) (now : DateTime) (inbox : List Row) :
    Contract Statement Statement.Reply Progress where
  requires statement progress := Asks recipientId statement ∧
    (progress.executed = [] → statement = .setConfig recipientId) ∧
    (statement.isWrite = true → progress.writes = [])
  allows statement progress reply after := ∃ snapshot writes,
    Mirrors recipientId inbox snapshot ∧ (snapshot.map Row.id).Nodup ∧
    writes.Perm (if statement.isWrite then made now inbox statement else []) ∧
    reply = statement.reply snapshot writes ∧
    after = { executed := progress.executed ++ [statement],
              writes := progress.writes ++ writes,
              queued := queueSignals progress.queued statement.payloads }

/-- How an operation ends that serves its caller from the inbox. -/
def Serves (now : DateTime) (inbox : List Row) (operation : Operation) (ending : Ending)
    (progress : Progress) : Prop :=
  match ending with
  | .commit response => answer inbox operation = some response ∧
      progress.writes.Perm (writes now inbox operation)
  | .rollback error => answer inbox operation = some (.error error) ∧
      writes now inbox operation = []

/-- How an operation fails of itself. -/
def Fails (now : DateTime) (inbox : List Row) (operation : Operation) (error : SqlxError)
    (_ : Progress) : Prop :=
  answer inbox operation = some (.error (dbError error)) ∧ writes now inbox operation = []

variable {now : DateTime} {progress : Progress} {α : Type} {post : α → Progress → Prop}
  {failed : SqlxError → Progress → Prop}

/-- The rule for a statement that reads. -/
theorem meets_read {statement : Statement} {next : statement.Reply → Tx α}
    (asks : Asks recipientId statement) (reads : statement.isWrite = false)
    (ran : progress.executed ≠ [])
    (later : ∀ snapshot, Mirrors recipientId inbox snapshot → (snapshot.map Row.id).Nodup →
      Meets (contract recipientId now inbox) post failed (next (statement.reply snapshot []))
        { progress with
          executed := progress.executed ++ [statement]
          queued := queueSignals progress.queued statement.payloads }) :
    Meets (contract recipientId now inbox) post failed (.call statement next) progress := by
  refine ⟨⟨asks, fun nothing => absurd nothing ran, by simp [reads]⟩, ?_⟩
  rintro _ _ ⟨snapshot, writes, mirrors, ids, made_, rfl, rfl⟩
  rw [reads] at made_
  obtain rfl := made_.eq_nil
  rw [List.append_nil]
  exact later snapshot mirrors ids

/-- The rule for a statement that writes. -/
theorem meets_write {statement : Statement} {next : statement.Reply → Tx α}
    (asks : Asks recipientId statement) (writing : statement.isWrite = true)
    (ran : progress.executed ≠ []) (clean : progress.writes = [])
    (later : ∀ snapshot writes, Mirrors recipientId inbox snapshot →
      (snapshot.map Row.id).Nodup → writes.Perm (made now inbox statement) →
      Meets (contract recipientId now inbox) post failed (next (statement.reply snapshot writes))
        { executed := progress.executed ++ [statement]
          writes := writes
          queued := queueSignals progress.queued statement.payloads }) :
    Meets (contract recipientId now inbox) post failed (.call statement next) progress := by
  refine ⟨⟨asks, fun nothing => absurd nothing ran, fun _ => clean⟩, ?_⟩
  rintro _ _ ⟨snapshot, writes, mirrors, ids, made_, rfl, rfl⟩
  rw [writing] at made_
  rw [clean, List.nil_append]
  exact later snapshot writes mirrors ids made_

/-- A resolver's body runs after `scoped_tx` has set the caller. -/
theorem scoped_meets (caller : Uuid) (body : Tx α)
    (later : ∀ progress : Progress, progress.executed ≠ [] → progress.writes = [] →
      Meets (contract caller now inbox) post failed body progress) :
    Meets (contract caller now inbox) post failed (do scopedTx caller; body) Progress.start := by
  refine ⟨⟨rfl, fun _ => rfl, fun writing => absurd writing (by simp [Statement.isWrite])⟩, ?_⟩
  rintro _ _ ⟨snapshot, writes, mirrors, ids, made_, rfl, rfl⟩
  obtain rfl : writes = [] := made_.eq_nil
  exact later _ (by simp [Progress.start]) rfl

/-- Signalling changes nothing that has been written. -/
theorem signalAll_meets (signals : List NotificationSignal) (ran : progress.executed ≠ []) :
    Meets (contract recipientId now inbox)
      (fun _ after => after.executed ≠ [] ∧ after.writes = progress.writes) failed
      (signalAll signals) progress := by
  apply meets_forM (fun (_ : List (List NotificationSignal)) (after : Progress) =>
    after.executed ≠ [] ∧ after.writes = progress.writes)
  · exact ⟨ran, rfl⟩
  · intro batch rest state kept
    have asks : Asks recipientId (.pgNotify batch) := trivial
    apply meets_read asks rfl kept.1
    intro snapshot mirrors ids
    exact ⟨by simp, kept.2⟩

/-- The page query and its hydration give the inbox's page. -/
theorem listPage_meets (of : Of recipientId inbox) (first : Int32) (after : Option Uuid)
    (ran : progress.executed ≠ []) (clean : progress.writes = []) :
    Meets (contract recipientId now inbox)
      (fun listed reached => reached.writes = [] ∧ ∃ found, listed = some found ∧
        page inbox recipientId first after =
          .ok (.connection (found.nodes.map NotificationNode.from) found.hasNextPage))
      (fun error _ => page inbox recipientId first after = .error (dbError error))
      (listPage recipientId first.toInt after) progress := by
  apply meets_read (by rfl) rfl ran
  intro snapshot mirrors ids
  simp only [Statement.reply, mirrors.listed_eq of ids after]
  cases hydrated : hydrateAll (((listed inbox recipientId after).take
      (clampFirst first.toInt + 1).toNat).take (clampFirst first.toInt).toNat) with
  | ok nodes =>
    simp only [Program.bind, hydrated]
    refine ⟨clean, _, rfl, ?_⟩
    simp only [page, hydrated]
  | error error =>
    simp only [Program.bind, hydrated]
    show page inbox recipientId first after = _
    simp only [page, hydrated]

/-- A list request finds the inbox's page, or nothing when the cursor is not in the inbox. -/
theorem listNotifications_meets (of : Of recipientId inbox) (first : Int32)
    (after : Option Uuid) (ran : progress.executed ≠ []) (clean : progress.writes = []) :
    Meets (contract recipientId now inbox)
      (fun listed reached => reached.writes = [] ∧
        (listed = none ∧
            answer inbox (.notifications recipientId first after) = some (.error .notFound) ∨
          ∃ found, listed = some found ∧ answer inbox (.notifications recipientId first after) =
            some (.ok (.connection (found.nodes.map NotificationNode.from) found.hasNextPage))))
      (fun error _ =>
        answer inbox (.notifications recipientId first after) = some (.error (dbError error)))
      (listNotifications recipientId first.toInt after) progress := by
  have paged : ∀ (cursor : Option Uuid) (progress : Progress), progress.executed ≠ [] →
      progress.writes = [] →
      answer inbox (.notifications recipientId first after) =
        some (page inbox recipientId first cursor) →
      Meets (contract recipientId now inbox)
        (fun listed reached => reached.writes = [] ∧
          (listed = none ∧
              answer inbox (.notifications recipientId first after) = some (.error .notFound) ∨
            ∃ found, listed = some found ∧ answer inbox (.notifications recipientId first after) =
              some (.ok (.connection (found.nodes.map NotificationNode.from) found.hasNextPage))))
        (fun error _ =>
          answer inbox (.notifications recipientId first after) = some (.error (dbError error)))
        (listPage recipientId first.toInt cursor) progress := by
    intro cursor progress ran clean answered
    apply (listPage_meets of first cursor ran clean).mono
    · intro listed reached listing
      obtain ⟨unwritten, found, isListed, is⟩ := listing
      exact ⟨unwritten, Or.inr ⟨found, isListed, answered.trans (congrArg some is)⟩⟩
    · intro error reached is
      exact answered.trans (congrArg some is)
  cases after with
  | none => exact paged none progress ran clean rfl
  | some cursor =>
    apply meets_read (by rfl) rfl ran
    intro snapshot mirrors ids
    simp only [Statement.reply, mirrors.anchorRow_eq of ids cursor, isSome_anchorRow_eq of]
    by_cases there : holds inbox cursor = true
    · simp only [there]
      exact paged (some cursor) _ (by simp) clean (by simp [answer, there])
    · have gone := Bool.eq_false_iff.mpr there
      simp only [gone]
      exact ⟨clean, Or.inl ⟨rfl, by simp [answer, gone]⟩⟩

/-- A page request is answered from the inbox. -/
theorem notifications_meets (of : Of recipientId inbox) (first : Int32) (after : Option Uuid) :
    Meets (contract recipientId now inbox)
      (Serves now inbox (.notifications recipientId first after))
      (Fails now inbox (.notifications recipientId first after))
      (notifierNotifications recipientId first after) Progress.start := by
  apply scoped_meets
  intro progress ran clean
  apply Meets.bind
  apply (listNotifications_meets of first after ran clean).mono
  · intro listed reached listing
    obtain ⟨unwritten, ⟨rfl, refused⟩ | ⟨found, rfl, served⟩⟩ := listing
    · exact ⟨refused, by rw [unwritten]; rfl⟩
    · exact ⟨served, by rw [unwritten]; rfl⟩
  · intro error reached failed
    exact ⟨failed, rfl⟩

/-- The unread count is the inbox's. -/
theorem unreadCount_meets (of : Of recipientId inbox) :
    Meets (contract recipientId now inbox) (Serves now inbox (.unreadCount recipientId))
      (Fails now inbox (.unreadCount recipientId)) (notifierUnreadCount recipientId)
      Progress.start := by
  apply scoped_meets
  intro progress ran clean
  apply meets_read (by rfl) rfl ran
  intro snapshot mirrors ids
  have counted : (snapshot.filter fun row =>
      row.readAt.isNone && row.recipientId == recipientId).length =
        (inbox.filter fun row => row.readAt.isNone).length := by
    apply List.Perm.length_eq
    apply mirrors.filter_perm of ids
    · intro row own
      simp [own]
    · intro row selected
      simp only [Bool.and_eq_true, beq_iff_eq] at selected
      exact selected.2
  refine ⟨?_, by rw [clean]; rfl⟩
  simp only [answer, Statement.reply, counted]

/-- The one row `markRead` may write on. -/
theorem made_markRead (now : DateTime) (of : Of recipientId inbox) (id : Uuid) :
    made now inbox (.markRead id recipientId) =
      ((anchorRow inbox recipientId id).toList.filter fun row => row.readAt.isNone).map
        fun row => .setRead row now.timestamptz := by
  rw [← filter_anchorRow of.unique.ids, List.filter_filter, made]
  have selects : (Statement.markRead id recipientId).selects =
      fun row => row.readAt.isNone && (row.id == id && row.recipientId == recipientId) := by
    funext row
    rw [Statement.selects, Bool.and_comm]
  rw [selects]
  rfl

/-- The one row a single delete may write on. -/
theorem made_delete_one (of : Of recipientId inbox) (id : Uuid) :
    made now inbox (.delete [id] recipientId) =
      (anchorRow inbox recipientId id).toList.map .delete := by
  rw [← filter_anchorRow of.unique.ids, made]
  have selects : (Statement.delete [id] recipientId).selects =
      fun row => row.id == id && row.recipientId == recipientId := by
    funext row
    simp [Statement.selects, Bool.beq_eq_decide_eq]
  rw [selects]
  rfl

/-- Marking one notification read is answered from the inbox. -/
theorem markAsRead_meets (of : Of recipientId inbox) (id : Uuid) :
    Meets (contract recipientId now inbox) (Serves now inbox (.markAsRead recipientId id))
      (Fails now inbox (.markAsRead recipientId id)) (notifierMarkAsRead recipientId id)
      Progress.start := by
  apply scoped_meets
  intro progress ran clean
  apply meets_write (by rfl) rfl ran clean
  intro snapshot writes_ mirrors ids made_
  have marked : writes now inbox (.markAsRead recipientId id) =
      made now inbox (.markRead id recipientId) := rfl
  have held := isSome_anchorRow_eq of id
  rw [made_markRead now of] at made_
  simp only [Statement.reply, mirrors.anchorRow_eq of ids id]
  cases found : anchorRow inbox recipientId id with
  | none =>
    rw [found] at held made_
    obtain rfl : writes_ = [] := made_.eq_nil
    have gone : holds inbox id = false := held.symm
    refine ⟨by simp [answer, gone], ?_⟩
    rw [marked, made_markRead now of, found]
    rfl
  | some before =>
    rw [found] at held made_
    have there : holds inbox id = true := held.symm
    have acked : answer inbox (.markAsRead recipientId id) = some (.ok .ack) := by
      simp [answer, there]
    have spec := made_markRead now of id
    rw [found] at spec
    cases readAt : before.readAt with
    | some instant =>
      -- Already read: the statement writes nothing.
      simp only [Option.toList_some, List.filter_cons, readAt, Option.isNone_some] at made_ spec
      obtain rfl : writes_ = [] := made_.eq_nil
      simp only [Option.map_some, List.find?_nil, readAt, Option.bind_none, Option.none_or,
        Option.isSome_none]
      exact ⟨acked, by rw [marked, spec]; rfl⟩
    | none =>
      simp only [Option.toList_some, List.filter_cons, readAt, Option.isNone_none] at made_ spec
      obtain rfl : writes_ = [.setRead before now.timestamptz] := List.perm_singleton.mp made_
      have named : (Write.setRead before now.timestamptz).id = before.id := rfl
      simp only [Option.map_some, List.find?_cons, named, beq_self_eq_true, Option.bind_some,
        Write.readAt, Option.some_or, Option.isSome_some]
      apply Meets.bind
      show Meets _ _ _ (signalAll _ >>= fun _ => pure (some ReadOutcome.transitioned)) _
      apply Meets.bind
      apply (signalAll_meets _ (by simp)).mono
      · intro _ after kept
        refine ⟨acked, ?_⟩
        rw [kept.2, marked, spec]
        exact List.Perm.refl _
      · exact fun _ _ failed => failed

/-- Marking everything read is answered from the inbox. -/
theorem markAllAsRead_meets (utcNow : DateTime) :
    Meets (contract recipientId now inbox) (Serves now inbox (.markAllAsRead utcNow recipientId))
      (Fails now inbox (.markAllAsRead utcNow recipientId))
      (notifierMarkAllAsRead utcNow recipientId) Progress.start := by
  apply scoped_meets
  intro progress ran clean
  apply meets_write (by rfl) rfl ran clean
  intro snapshot writes_ mirrors ids made_
  simp only [Statement.reply, Program.bind]
  by_cases nothing : (writes_.map Write.id).isEmpty = true
  · simp only [nothing]
    exact ⟨rfl, made_⟩
  · simp only [Bool.eq_false_iff.mpr nothing]
    apply Meets.bind
    apply Meets.bind
    apply (signalAll_meets _ (by simp)).mono
    · intro _ after kept
      refine ⟨rfl, ?_⟩
      rw [kept.2]
      exact made_
    · exact fun _ _ failed => failed

/-- What `delete_notifications` does on an inbox: it deletes what the inbox has of the ids, and
returns them. -/
theorem deleteNotifications_meets (asked : List Uuid) (ran : progress.executed ≠ [])
    (clean : progress.writes = []) :
    Meets (contract recipientId now inbox)
      (fun deleted after => deleted = after.writes.map Write.id ∧
        after.writes.Perm (made now inbox (.delete asked recipientId))) failed
      (deleteNotifications recipientId asked) progress := by
  rw [deleteNotifications]
  by_cases nothing : asked.isEmpty = true
  · rw [if_pos nothing]
    rw [List.isEmpty_iff] at nothing
    subst nothing
    have none_ : made now inbox (.delete [] recipientId) = [] := by
      simp [made, Statement.selects]
    exact ⟨by rw [clean]; rfl, by rw [clean, none_]⟩
  · rw [if_neg nothing]
    apply meets_write (by rfl) rfl ran clean
    intro snapshot writes_ mirrors ids made_
    simp only [Statement.reply, Program.bind]
    by_cases unmatched : (writes_.map Write.id).isEmpty = true
    · simp only [unmatched]
      exact ⟨rfl, made_⟩
    · simp only [Bool.eq_false_iff.mpr unmatched]
      apply Meets.bind
      apply (signalAll_meets _ (by simp)).mono
      · intro _ after kept
        refine ⟨?_, ?_⟩
        · rw [kept.2]
        · rw [kept.2]
          exact made_
      · exact fun _ _ failed => failed

/-- Deleting one notification is answered from the inbox. -/
theorem deleteNotification_meets (of : Of recipientId inbox) (id : Uuid) :
    Meets (contract recipientId now inbox) (Serves now inbox (.deleteNotification recipientId id))
      (Fails now inbox (.deleteNotification recipientId id))
      (notifierDeleteNotification recipientId id) Progress.start := by
  apply scoped_meets
  intro progress ran clean
  apply Meets.bind
  apply (deleteNotifications_meets [id] ran clean).mono
  · rintro _ after ⟨rfl, made_⟩
    have held := isSome_anchorRow_eq of id
    have spec : writes now inbox (.deleteNotification recipientId id) =
        (anchorRow inbox recipientId id).toList.map .delete := made_delete_one of id
    rw [made_delete_one of] at made_
    cases found : anchorRow inbox recipientId id with
    | none =>
      rw [found] at held made_ spec
      have gone : holds inbox id = false := held.symm
      have unwritten : after.writes = [] := made_.eq_nil
      rw [unwritten]
      exact ⟨by simp [answer, gone], spec⟩
    | some row =>
      rw [found] at held made_ spec
      have there : holds inbox id = true := held.symm
      have deleted : after.writes = [.delete row] := List.perm_singleton.mp made_
      rw [deleted]
      refine ⟨by simp [answer, there], ?_⟩
      rw [deleted, spec]
      exact List.Perm.refl _
  · exact fun _ _ failed => failed

/-- Deleting notifications is answered from the inbox. -/
theorem deleteMany_meets (asked : List Uuid) :
    Meets (contract recipientId now inbox)
      (Serves now inbox (.deleteNotifications recipientId asked))
      (Fails now inbox (.deleteNotifications recipientId asked))
      (notifierDeleteNotifications recipientId asked) Progress.start := by
  apply scoped_meets
  intro progress ran clean
  apply Meets.bind
  apply (deleteNotifications_meets asked ran clean).mono
  · rintro _ after ⟨-, made_⟩
    exact ⟨rfl, made_⟩
  · exact fun _ _ failed => failed

/-- Every query and mutation is served from its caller's inbox. -/
theorem operation_meets {operation : Operation} (own : operation.caller = some recipientId)
    (of : Of recipientId inbox) :
    Meets (contract recipientId now inbox) (Serves now inbox operation)
      (Fails now inbox operation) operation.body Progress.start := by
  cases operation with
  | fanOut nowV7 command => contradiction
  | notifications caller first after =>
    obtain rfl := Option.some.inj own
    exact notifications_meets of first after
  | unreadCount caller =>
    obtain rfl := Option.some.inj own
    exact unreadCount_meets of
  | markAsRead caller id =>
    obtain rfl := Option.some.inj own
    exact markAsRead_meets of id
  | markAllAsRead utcNow caller =>
    obtain rfl := Option.some.inj own
    exact markAllAsRead_meets utcNow
  | deleteNotification caller id =>
    obtain rfl := Option.some.inj own
    exact deleteNotification_meets of id
  | deleteNotifications caller asked =>
    obtain rfl := Option.some.inj own
    exact deleteMany_meets asked

/-! ## The inbox after an operation -/

/-- What an operation writes in an inbox is lawful there. -/
theorem writes_lawful (of : Of recipientId inbox) (now : DateTime) (operation : Operation) :
    Lawful inbox (writes now inbox operation) := by
  cases writing : operation.writing with
  | none =>
    rw [writes, writing]
    exact ⟨List.nodup_nil, List.nodup_nil, by simp, by simp, by simp⟩
  | some statement =>
    rw [writes, writing]
    show Lawful inbox (made now inbox statement)
    have alone : ∀ write ∈ made now inbox statement, Lawful inbox [write] := by
      intro write member
      obtain ⟨row, selected, rfl⟩ := List.mem_map.mp member
      rw [List.mem_filter] at selected
      exact (Store.lawful_write now selected.1 selected.2).1
    have on : ∀ row ∈ inbox.filter statement.selects, (statement.write now row).row = row := by
      intro row selected
      rw [List.mem_filter] at selected
      exact (Store.lawful_write now selected.1 selected.2).2
    have ids : (made now inbox statement).map Write.id =
        (inbox.filter statement.selects).map Row.id := by
      rw [made, List.map_map]
      exact List.map_congr_left fun row selected => congrArg Row.id (on row selected)
    have keys : (made now inbox statement).map Write.key =
        (inbox.filter statement.selects).map Row.key := by
      rw [made, List.map_map]
      exact List.map_congr_left fun row selected => congrArg Row.key (on row selected)
    constructor
    · rw [ids]
      exact (List.filter_sublist.map Row.id).nodup of.unique.ids
    · rw [keys]
      exact (List.filter_sublist.map Row.key).nodup of.unique.keys
    · exact fun row member => (alone _ member).inserts row List.mem_cons_self
    · exact fun row readAt member => (alone _ member).reads row readAt List.mem_cons_self
    · exact fun row member => (alone _ member).deletes row List.mem_cons_self

/-- Writes on rows of others leave an inbox as it is. -/
theorem Mirrors.foreign {writes : List Write} (mirrors : Mirrors recipientId inbox rows)
    (unique : Unique rows) (lawful : Lawful rows writes)
    (foreign : ∀ write ∈ writes, write.row.recipientId ≠ recipientId) :
    Mirrors recipientId inbox (applyWrites rows writes) := by
  intro row
  rw [mirrors row, mem_applyWrites unique lawful]
  constructor
  · rintro ⟨member, own⟩
    refine ⟨Or.inr ⟨member, ?_⟩, own⟩
    intro touched
    obtain ⟨write, there, same⟩ := List.mem_map.mp touched
    have row_ : write.row = row := by
      cases write with
      | insert new =>
        have absent : new.id ∉ rows.map Row.id := (lawful.inserts new there).1
        have taken : row.id = new.id := same.symm
        exact absurd (taken ▸ List.mem_map_of_mem member) absent
      | setRead old readAt => exact unique.eq_of_id (lawful.reads old readAt there).1 member same
      | delete old => exact unique.eq_of_id (lawful.deletes old there) member same
    exact foreign write there (row_ ▸ own)
  · rintro ⟨⟨write, there, left⟩ | ⟨member, -⟩, own⟩
    · have owner : row.recipientId = write.row.recipientId :=
        congrArg Prod.snd (Write.key_of_version left)
      exact absurd (owner.symm.trans own) (foreign write there)
    · exact ⟨member, own⟩

/-- The writes an operation makes in the inbox, made in the table, give the inbox after them. -/
theorem Mirrors.own {now : DateTime} {operation : Operation} {held : List Write}
    (mirrors : Mirrors recipientId inbox rows) (of : Of recipientId inbox) (unique : Unique rows)
    (lawful : Lawful rows held) (same : held.Perm (writes now inbox operation)) :
    Mirrors recipientId (applyWrites inbox (writes now inbox operation))
      (applyWrites rows held) := by
  intro row
  rw [mem_applyWrites of.unique (writes_lawful of now operation), mem_applyWrites unique lawful,
    mirrors row]
  have owned : ∀ write ∈ held, write.row.recipientId = recipientId := by
    intro write member
    have made_ := same.mem_iff.mp member
    rw [writes] at made_
    split at made_
    · cases made_
    · obtain ⟨old, selected, rfl⟩ := List.mem_map.mp made_
      rw [List.mem_filter] at selected
      rw [(Store.lawful_write now selected.1 selected.2).2]
      exact of.own old selected.1
  have ids : ∀ id, id ∈ held.map Write.id ↔ id ∈ (writes now inbox operation).map Write.id :=
    fun id => (same.map Write.id).mem_iff
  rw [← ids]
  constructor
  · rintro (⟨write, member, left⟩ | ⟨⟨member, own⟩, untouched⟩)
    · have there := same.mem_iff.mpr member
      have owner : row.recipientId = write.row.recipientId :=
        congrArg Prod.snd (Write.key_of_version left)
      exact ⟨Or.inl ⟨write, there, left⟩, owner.trans (owned write there)⟩
    · exact ⟨Or.inr ⟨member, untouched⟩, own⟩
  · rintro ⟨⟨write, member, left⟩ | ⟨member, untouched⟩, own⟩
    · exact Or.inl ⟨write, same.mem_iff.mp member, left⟩
    · exact Or.inr ⟨⟨member, own⟩, untouched⟩

/-- The inbox after an operation is an inbox. -/
theorem Of.after {table : List Row} (of : Of recipientId inbox) (now : DateTime)
    (operation : Operation)
    (mirrors : Mirrors recipientId (applyWrites inbox (writes now inbox operation)) table) :
    Of recipientId (applyWrites inbox (writes now inbox operation)) where
  own row member := ((mirrors row).mp member).2
  unique := by
    have lawful : Lawful inbox (writes now inbox operation ++ []) := by
      rw [List.append_nil]
      exact writes_lawful of now operation
    exact (lawful_applyWrites of.unique lawful).1

end Inbox

end SvcNotifier
