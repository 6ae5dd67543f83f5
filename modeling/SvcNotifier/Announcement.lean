import SvcNotifier.Graphql

/-!
# Every transaction announces what it writes

The programs of `notification.rs` and the resolvers are verified once, against a contract that
says only what a statement can do to the transaction itself: the writes it makes are of its
own shape, its reply is computed from some snapshot and those writes, and the signals it
queues are the payloads it was given. Nothing is assumed about the table or about other
sessions, so the result holds of a transaction run alone and of one that is interleaved.
-/

namespace SvcNotifier

open Library Program

/-- What a transaction has done so far. -/
structure Progress where
  /-- The statements it has completed. -/
  executed : List Statement
  /-- The rows it has written. -/
  writes : List Write
  /-- The signals it has queued. -/
  queued : List NotificationSignal

/-- A transaction that has done nothing. -/
def Progress.start : Progress := ⟨[], [], []⟩

/-- A write of the shape a statement makes. -/
def Statement.Permits (now : DateTime) (statement : Statement) (write : Write) : Prop :=
  match statement with
  | .insert .. => ∃ row ∈ statement.candidates now, write = .insert row
  | _ => ∃ row, statement.selects row = true ∧ write = statement.write now row

/-- Writes a statement may have made: each of its shape, on different rows. -/
structure Statement.Makes (now : DateTime) (statement : Statement) (writes : List Write) :
    Prop where
  /-- Each is one that the statement may make. -/
  permitted : ∀ write ∈ writes, statement.Permits now write
  /-- No row is written twice. -/
  distinct : (writes.map Write.id).Nodup

/-- What a statement may do to its transaction. No transaction runs a second writing
statement. -/
def txContract (now : DateTime) : Contract Statement Statement.Reply Progress where
  requires statement progress := statement.isWrite = true → progress.writes = []
  allows statement progress reply after := ∃ snapshot writes, statement.Makes now writes ∧
    reply = statement.reply snapshot writes ∧
    after = { executed := progress.executed ++ [statement],
              writes := progress.writes ++ writes,
              queued := queueSignals progress.queued statement.payloads }

variable {now : DateTime} {progress : Progress}

/-- A statement that does not write makes no writes. -/
theorem Statement.Makes.eq_nil {statement : Statement} {writes : List Write}
    (makes : statement.Makes now writes) (reads : statement.isWrite = false) : writes = [] := by
  cases writes with
  | nil => rfl
  | cons write rest =>
    have permitted := makes.permitted write List.mem_cons_self
    cases statement <;> simp_all [Statement.isWrite, Statement.Permits, Statement.selects]

/-- The rule for a statement that does not write: the transaction keeps its writes. -/
theorem ensures_read {statement : Statement} {α : Type} {post : α → Progress → Prop}
    {next : statement.Reply → Tx α} (reads : statement.isWrite = false)
    (later : ∀ snapshot, Ensures (txContract now) post (next (statement.reply snapshot []))
      { progress with
        executed := progress.executed ++ [statement]
        queued := queueSignals progress.queued statement.payloads }) :
    Ensures (txContract now) post (.call statement next) progress := by
  rw [ensures_call]
  refine ⟨by simp [txContract, reads], ?_⟩
  rintro _ _ ⟨snapshot, writes, makes, rfl, rfl⟩
  obtain rfl := makes.eq_nil reads
  simpa using later snapshot

/-- The rule for a writing statement, run first among them. -/
theorem ensures_write {statement : Statement} {α : Type} {post : α → Progress → Prop}
    {next : statement.Reply → Tx α} (writing : statement.payloads = [])
    (clean : progress.writes = [])
    (later : ∀ snapshot writes, statement.Makes now writes →
      Ensures (txContract now) post (next (statement.reply snapshot writes))
        { progress with executed := progress.executed ++ [statement], writes := writes }) :
    Ensures (txContract now) post (.call statement next) progress := by
  rw [ensures_call]
  refine ⟨fun _ => clean, ?_⟩
  rintro _ _ ⟨snapshot, writes, makes, rfl, rfl⟩
  simpa [clean, writing, queueSignals] using later snapshot writes makes

/-! ## The signalling functions -/

/-- One batch of `signal_all`. -/
theorem signal_ensures (signals : List NotificationSignal) :
    Ensures (txContract now) (fun _ after => after =
      { progress with
        executed := progress.executed ++ [.pgNotify signals]
        queued := queueSignals progress.queued signals }) (signal signals) progress :=
  ensures_read rfl fun _ => rfl

/-- `signal_all` queues its signals in order, over all its batches, when none repeats. -/
theorem signalAll_ensures (signals : List NotificationSignal) (distinct : signals.Nodup)
    (empty : progress.queued = []) :
    Ensures (txContract now) (fun _ after => progress.executed <+: after.executed ∧
      after.writes = progress.writes ∧ after.queued = signals) (signalAll signals) progress := by
  let keeps (batches : List (List NotificationSignal)) (state : Progress) : Prop :=
    progress.executed <+: state.executed ∧ state.writes = progress.writes ∧
      state.queued ++ batches.flatten = signals
  refine (ensures_forM keeps signal (chunks signalsPerStatement signals) ?_ ?_).mono ?_
  · exact ⟨List.prefix_rfl, rfl, by
      rw [empty, List.nil_append, chunks_flatten (by decide)]⟩
  · -- One batch moves its signals from what is left to what is queued.
    intro batch rest state kept
    obtain ⟨ran, written, queued⟩ := kept
    rw [List.flatten_cons, ← List.append_assoc] at queued
    have unique : (state.queued ++ batch).Nodup :=
      (List.nodup_append.mp (queued ▸ distinct)).1
    have appended : queueSignals state.queued batch = state.queued ++ batch := by
      rw [List.nodup_append] at unique
      exact queueSignals_append _ _ unique.2.1 fun signal member old =>
        unique.2.2 signal old signal member rfl
    refine (signal_ensures batch).mono ?_
    rintro _ _ rfl
    exact ⟨ran.trans (List.prefix_append _ _), written, by rw [appended, queued]⟩
  · rintro _ after ⟨ran, written, queued⟩
    exact ⟨ran, written, by simpa using queued⟩

/-- The facts a bulk signal's chunks state are its ids', in order. -/
theorem readSignals_facts (recipientId : Uuid) (ids : List Uuid) (readAt : DateTime) :
    (readSignals recipientId ids readAt).flatMap NotificationSignal.facts =
      ids.map (⟨.read, recipientId, ·⟩) := by
  have whole : (chunks signalIdChunk ids).flatten = ids := chunks_flatten (by decide) ids
  conv_rhs => rw [← whole]
  simp [readSignals, NotificationSignal.facts, List.map_flatten, List.flatMap_def,
    Function.comp_def]

/-- The signals of a bulk delete state the deletion of each id, in order. -/
theorem deletedSignals_facts (recipientId : Uuid) (ids : List Uuid) :
    (deletedSignals recipientId ids).flatMap NotificationSignal.facts =
      ids.map (⟨.deleted, recipientId, ·⟩) := by
  have whole : (chunks signalIdChunk ids).flatten = ids := chunks_flatten (by decide) ids
  conv_rhs => rw [← whole]
  simp [deletedSignals, NotificationSignal.facts, List.map_flatten, List.flatMap_def,
    Function.comp_def]

/-- Signals built from the chunks of ids are neither empty nor over the chunk bound. -/
theorem sized_chunks {ids : List Uuid} {make : List Uuid → NotificationSignal}
    (names : ∀ chunk, (make chunk).facts.length = chunk.length) :
    ∀ signal ∈ (chunks signalIdChunk ids).map make, signal.Sized := by
  intro signal member
  obtain ⟨chunk, inside, rfl⟩ := List.mem_map.mp member
  have bounds := chunks_bounds (by decide) ids chunk inside
  exact ⟨by rw [names]; exact bounds.1, by rw [names]; exact bounds.2⟩

/-- Signals built from the chunks of distinct ids announce any writes with those facts. -/
theorem announces_chunks {ids : List Uuid} {writes : List Write}
    (make : List Uuid → NotificationSignal) (injective : Function.Injective make)
    (names : ∀ chunk, (make chunk).facts.length = chunk.length) (distinct : ids.Nodup)
    (facts : ((chunks signalIdChunk ids).map make).flatMap NotificationSignal.facts =
      writes.map Write.fact) :
    Announces writes ((chunks signalIdChunk ids).map make) :=
  ⟨facts, sized_chunks names, (chunks_nodup (by decide) distinct).map injective⟩

/-- The signals of `signal_read` announce writes that set `read_at` on one recipient's rows. -/
theorem readSignals_announces {recipientId : Uuid} {writes : List Write} (readAt : DateTime)
    (distinct : (writes.map Write.id).Nodup)
    (facts : ∀ write ∈ writes, write.fact = ⟨.read, recipientId, write.id⟩) :
    Announces writes (readSignals recipientId (writes.map Write.id) readAt) := by
  refine announces_chunks (.read recipientId · readAt) (fun _ _ same => by
    injection same) (fun chunk => by simp [NotificationSignal.facts]) distinct ?_
  refine (readSignals_facts recipientId _ readAt).trans ?_
  rw [List.map_map]
  exact List.map_congr_left fun write member => (facts write member).symm

/-- The signals of `signal_deleted` announce the removal of one recipient's rows. -/
theorem deletedSignals_announces {recipientId : Uuid} {writes : List Write}
    (distinct : (writes.map Write.id).Nodup)
    (facts : ∀ write ∈ writes, write.fact = ⟨.deleted, recipientId, write.id⟩) :
    Announces writes (deletedSignals recipientId (writes.map Write.id)) := by
  refine announces_chunks (.deleted recipientId ·) (fun _ _ same => by
    injection same) (fun chunk => by simp [NotificationSignal.facts]) distinct ?_
  refine (deletedSignals_facts recipientId _).trans ?_
  rw [List.map_map]
  exact List.map_congr_left fun write member => (facts write member).symm

/-- One `Added` signal for each row an INSERT returned announces the INSERT. -/
theorem addedSignals_announces {writes : List Write} (distinct : (writes.map Write.id).Nodup)
    (facts : ∀ write ∈ writes, write.fact = ⟨.added, write.row.recipientId, write.id⟩) :
    Announces writes
      (addedSignals (writes.map fun write => (write.id, write.row.recipientId))) := by
  refine ⟨?_, ?_, ?_⟩
  · simp only [addedSignals, List.map_map, List.flatMap_map, Function.comp_def,
      NotificationSignal.facts]
    rw [← List.map_eq_flatMap]
    exact List.map_congr_left fun write member => (facts write member).symm
  · intro signal member
    simp only [addedSignals, List.map_map, List.mem_map, Function.comp_apply] at member
    obtain ⟨write, -, rfl⟩ := member
    exact ⟨by simp [NotificationSignal.facts], by simp [NotificationSignal.facts, signalIdChunk]⟩
  · -- Two equal signals would name one id twice.
    refine List.Nodup.of_map (fun signal => signal.facts.map Fact.id) ?_
    simp only [addedSignals, List.map_map, Function.comp_def, NotificationSignal.facts,
      List.map_cons, List.map_nil]
    have single := distinct.map (@List.singleton_injective Uuid)
    simpa [List.map_map, Function.comp_def] using single

/-! ## The functions of `notification.rs` -/

/-- The state a function of `notification.rs` is called in: nothing written or queued yet. -/
def Progress.Clean (progress : Progress) : Prop := progress.writes = [] ∧ progress.queued = []

/-- What a function leaves that ran `statement`, if any, to write: its writes are of that
statement's shape and announced, and what ran before it is still recorded. -/
structure Progress.Announced (now : DateTime) (statement : Option Statement)
    (before after : Progress) : Prop where
  /-- Nothing that had run is forgotten. -/
  ran : before.executed <+: after.executed
  /-- The queued signals announce the writes. -/
  announces : Announces after.writes after.queued
  /-- Every write is one that the statement may make. -/
  made : ∀ write ∈ after.writes, ∃ made ∈ statement, made.Permits now write

/-- Nothing written and nothing queued is announced, whatever might have been written. -/
theorem Progress.Clean.announced {statement : Option Statement} {before after : Progress}
    (clean : after.Clean) (ran : before.executed <+: after.executed) :
    before.Announced now statement after := by
  refine ⟨ran, ?_, by simp [clean.1]⟩
  rw [clean.1, clean.2]
  exact announces_nothing

/-- The signalling tail of a writing function: signals that announce the writes just made
leave the transaction announced. -/
theorem signalAll_announced {α : Type} {post : α → Progress → Prop} {next : PUnit → Tx α}
    {statement : Statement} {before middle : Progress} (signals : List NotificationSignal)
    (makes : statement.Makes now middle.writes)
    (announces : Announces middle.writes signals) (quiet : middle.queued = [])
    (ran : before.executed <+: middle.executed)
    (later : ∀ after, middle.executed <+: after.executed → after.writes = middle.writes →
      before.Announced now statement after → Ensures (txContract now) post (next ⟨⟩) after) :
    Ensures (txContract now) post (signalAll signals >>= next) middle := by
  refine Ensures.bind ((signalAll_ensures signals announces.distinct quiet).mono ?_)
  rintro _ after ⟨kept, written, queued⟩
  have announced : before.Announced now statement after := by
    refine ⟨ran.trans kept, by rw [written, queued]; exact announces, ?_⟩
    intro write member
    exact ⟨statement, rfl, makes.permitted write (written ▸ member)⟩
  exact later after kept written announced

/-- `insert_notifications` announces one `Added` for each row inserted and returns their
number. -/
theorem insertNotifications_ensures (nowV7 : Nat → Uuid) (sourceEventId : Uuid)
    (recipientIds : List Uuid) (template : String) (payload : Value) (link : Option RelativeLink)
    (clean : progress.Clean) (statement : Statement)
    (is : statement = .insert ((List.range recipientIds.length).map nowV7) sourceEventId
      recipientIds template payload (link.map RelativeLink.asStr)) :
    Ensures (txContract now) (fun written after => progress.Announced now statement after ∧
        written = after.writes.length ∧ progress.executed ++ [statement] <+: after.executed)
      (insertNotifications nowV7 sourceEventId recipientIds template payload link) progress := by
  subst is
  refine ensures_write rfl clean.1 fun snapshot writes makes => ?_
  have announces : Announces writes
      (addedSignals (writes.map fun write => (write.id, write.row.recipientId))) := by
    refine addedSignals_announces makes.distinct fun write member => ?_
    obtain ⟨row, -, rfl⟩ := makes.permitted write member
    rfl
  simp only [Statement.reply, Program.bind]
  refine signalAll_announced _ makes announces clean.2 (List.prefix_append _ _) ?_
  intro after kept written announced
  exact ⟨announced, by simp [addedSignals, written], kept⟩

/-- A row the `markRead` statement writes is announced as one read of the caller's row. -/
theorem Statement.Makes.markRead_fact {id recipientId : Uuid} {writes : List Write}
    (makes : (Statement.markRead id recipientId).Makes now writes) :
    ∀ write ∈ writes, write.id = id ∧ write.readAt = some now.timestamptz ∧
      write.fact = ⟨.read, recipientId, write.id⟩ := by
  intro write member
  obtain ⟨row, selected, rfl⟩ := makes.permitted write member
  simp only [Statement.selects, Bool.and_eq_true, beq_iff_eq] at selected
  obtain ⟨⟨sameId, sameRecipient⟩, -⟩ := selected
  refine ⟨sameId, rfl, ?_⟩
  simp [Statement.write, Write.fact, Write.kind, Write.row, Write.id, sameRecipient]

/-- Writes that all touch one row, none twice, are none or one. -/
theorem writes_of_one_id {id : Uuid} {writes : List Write} (distinct : (writes.map Write.id).Nodup)
    (same : ∀ write ∈ writes, write.id = id) : writes = [] ∨ ∃ write, writes = [write] := by
  match writes with
  | [] => exact Or.inl rfl
  | [write] => exact Or.inr ⟨write, rfl⟩
  | first :: second :: rest =>
    have one := same first (by simp)
    have two := same second (by simp)
    simp [one, two] at distinct

/-- `mark_as_read` announces the transition it made, once; where it reports a row it found
already read it has written nothing. It promises nothing on `None`, where its caller rolls
back. -/
theorem markAsRead_ensures (recipientId id : Uuid) (clean : progress.Clean) :
    Ensures (txContract now) (fun outcome after => outcome ≠ none →
      progress.Announced now (some (.markRead id recipientId)) after)
      (markAsRead recipientId id) progress := by
  refine ensures_write rfl clean.1 fun snapshot writes makes => ?_
  have facts := makes.markRead_fact
  have ran : progress.executed <+: progress.executed ++ [.markRead id recipientId] :=
    List.prefix_append _ _
  simp only [Statement.reply, Program.bind]
  cases found : anchorRow snapshot recipientId id with
  | none => simp
  | some before =>
    obtain ⟨-, named, -⟩ := anchorRow_some found
    rcases writes_of_one_id makes.distinct (fun write member => (facts write member).1) with
      rfl | ⟨write, rfl⟩
    · -- Nothing was written: the row is reported as it was read.
      have clean' : Progress.Clean
          { progress with executed := progress.executed ++ [.markRead id recipientId],
                          writes := [] } := ⟨rfl, clean.2⟩
      cases before.readAt <;> simpa using clean'.announced ran
    · obtain ⟨sameId, setAt, fact⟩ := facts write List.mem_cons_self
      have announces : Announces [write] (readSignals recipientId [id] now.timestamptz) := by
        have all := readSignals_announces now.timestamptz makes.distinct
          fun write member => (facts write member).2.2
        simpa [sameId] using all
      simp only [Option.map_some, List.find?_cons, sameId, named, beq_self_eq_true,
        Option.bind_some, setAt, Option.some_or, Option.isSome_some]
      refine signalAll_announced _ makes announces clean.2 ran ?_
      exact fun _ _ _ announced _ => announced

/-- `mark_all_as_read` announces every transition it made. -/
theorem markAllAsRead_ensures (utcNow : DateTime) (recipientId : Uuid) (clean : progress.Clean) :
    Ensures (txContract now)
      (fun _ after => progress.Announced now (some (.markAllRead utcNow recipientId)) after)
      (markAllAsRead utcNow recipientId) progress := by
  refine ensures_write rfl clean.1 fun snapshot writes makes => ?_
  have facts : ∀ write ∈ writes, write.fact = ⟨.read, recipientId, write.id⟩ := by
    intro write member
    obtain ⟨row, selected, rfl⟩ := makes.permitted write member
    simp only [Statement.selects, Bool.and_eq_true, beq_iff_eq] at selected
    simp [Statement.write, Write.fact, Write.kind, Write.row, Write.id, selected.2]
  have ran : progress.executed <+: progress.executed ++ [.markAllRead utcNow recipientId] :=
    List.prefix_append _ _
  simp only [Statement.reply, Program.bind]
  cases writes with
  | nil => exact Progress.Clean.announced ⟨rfl, clean.2⟩ ran
  | cons first rest =>
    refine signalAll_announced _ makes (readSignals_announces utcNow makes.distinct facts)
      clean.2 ran ?_
    exact fun _ _ _ announced => announced

/-- `delete_notifications` announces every row it removed, and returns their ids. -/
theorem deleteNotifications_ensures (recipientId : Uuid) (ids : List Uuid)
    (clean : progress.Clean) :
    Ensures (txContract now)
      (fun deleted after => progress.Announced now (some (.delete ids recipientId)) after ∧
        deleted = after.writes.map Write.id)
      (deleteNotifications recipientId ids) progress := by
  unfold deleteNotifications
  split
  · exact ⟨clean.announced List.prefix_rfl, by simp [clean.1]⟩
  · refine ensures_write rfl clean.1 fun snapshot writes makes => ?_
    have facts : ∀ write ∈ writes, write.fact = ⟨.deleted, recipientId, write.id⟩ := by
      intro write member
      obtain ⟨row, selected, rfl⟩ := makes.permitted write member
      simp only [Statement.selects, Bool.and_eq_true, beq_iff_eq] at selected
      simp [Statement.write, Write.fact, Write.kind, Write.row, Write.id, selected.2]
    have ran : progress.executed <+: progress.executed ++ [.delete ids recipientId] :=
      List.prefix_append _ _
    simp only [Statement.reply, Program.bind]
    cases writes with
    | nil => exact ⟨Progress.Clean.announced ⟨rfl, clean.2⟩ ran, rfl⟩
    | cons first rest =>
      refine signalAll_announced _ makes (deletedSignals_announces makes.distinct facts)
        clean.2 ran ?_
      exact fun after _ written announced => ⟨announced, congrArg (List.map Write.id) written.symm⟩

/-- `list_notifications` writes and announces nothing. -/
theorem listNotifications_ensures (recipientId : Uuid) (first : Int) (after : Option Uuid)
    (clean : progress.Clean) :
    Ensures (txContract now) (fun _ after => progress.Announced now none after)
      (listNotifications recipientId first after) progress := by
  have paged : ∀ (cursor : Option Uuid) (before : Progress), before.Clean →
      progress.executed <+: before.executed →
      Ensures (txContract now) (fun _ after => progress.Announced now none after)
        (listPage recipientId first cursor) before := by
    intro cursor before clean ran
    refine ensures_read rfl fun snapshot => ?_
    dsimp only [Program.bind]
    split
    · exact Progress.Clean.announced clean (ran.trans (List.prefix_append _ _))
    · trivial
  cases after with
  | none => exact paged none progress clean List.prefix_rfl
  | some cursor =>
    refine ensures_read rfl fun snapshot => ?_
    have ran : progress.executed <+: progress.executed ++ [.anchor cursor recipientId] :=
      List.prefix_append _ _
    dsimp only [Program.bind]
    split
    · exact paged _ _ clean ran
    · exact Progress.Clean.announced clean ran

/-! ## The operations -/

/-- How an operation may end: when it commits, what it wrote is of its own statement's shape
and announced, and a fan-out has run its INSERT. -/
def Settled (now : DateTime) (operation : Operation) (ending : Ending) (after : Progress) : Prop :=
  match ending with
  | .rollback _ => True
  | .commit _ => Progress.start.Announced now operation.writing after ∧
      ∀ nowV7 command, operation = .fanOut nowV7 command →
        Operation.insertion nowV7 command ∈ after.executed

/-- A resolver's body runs after `scoped_tx` has set the caller. -/
theorem scoped_ensures {α : Type} {post : α → Progress → Prop} (caller : Uuid) (body : Tx α)
    (after : Ensures (txContract now) post body
      { Progress.start with executed := [.setConfig caller] }) :
    Ensures (txContract now) post (do scopedTx caller; body) Progress.start :=
  ensures_read rfl fun _ => after

/-- What is announced since a later point is announced since the start. -/
theorem Progress.Announced.since_start {statement : Option Statement} {before after : Progress}
    (announced : before.Announced now statement after) :
    Progress.start.Announced now statement after :=
  ⟨List.nil_prefix, announced.announces, announced.made⟩

/-- Every transaction of the service that commits announces exactly what it wrote. -/
theorem operation_ensures (now : DateTime) (operation : Operation) :
    Ensures (txContract now) (Settled now operation) operation.body Progress.start := by
  have clean : ∀ caller : Uuid,
      Progress.Clean { Progress.start with executed := [.setConfig caller] } :=
    fun _ => ⟨rfl, rfl⟩
  cases operation with
  | fanOut nowV7 command =>
    refine Ensures.bind ((insertNotifications_ensures _ _ _ _ _ _ ⟨rfl, rfl⟩
      (Operation.insertion nowV7 command) rfl).mono ?_)
    rintro _ after ⟨announced, -, ran⟩
    refine ⟨announced, ?_⟩
    rintro _ _ ⟨rfl, rfl⟩
    exact ran.subset (by simp [Progress.start])
  | notifications caller first after =>
    refine scoped_ensures caller _ (Ensures.bind
      ((listNotifications_ensures caller first.toInt after (clean caller)).mono ?_))
    intro page after announced
    cases page <;> exact ⟨announced.since_start, by simp⟩
  | unreadCount caller =>
    refine scoped_ensures caller _ (ensures_read rfl fun _ => ⟨?_, by simp⟩)
    exact Progress.Clean.announced ⟨rfl, rfl⟩ List.nil_prefix
  | markAsRead caller id =>
    refine scoped_ensures caller _ (Ensures.bind
      ((markAsRead_ensures caller id (clean caller)).mono ?_))
    intro outcome after announced
    cases outcome with
    | none => trivial
    | some _ => exact ⟨(announced (by simp)).since_start, by simp⟩
  | markAllAsRead utcNow caller =>
    refine scoped_ensures caller _ (Ensures.bind
      ((markAllAsRead_ensures utcNow caller (clean caller)).mono ?_))
    exact fun _ _ announced => ⟨announced.since_start, by simp⟩
  | deleteNotification caller id =>
    refine scoped_ensures caller _ (Ensures.bind
      ((deleteNotifications_ensures caller [id] (clean caller)).mono ?_))
    intro deleted after announced
    split
    · trivial
    · exact ⟨announced.1.since_start, by simp⟩
  | deleteNotifications caller ids =>
    refine scoped_ensures caller _ (Ensures.bind
      ((deleteNotifications_ensures caller ids (clean caller)).mono ?_))
    exact fun _ _ announced => ⟨announced.1.since_start, by simp⟩

/-- What an operation may write on is a row of its caller, or one it inserts for a recipient of
its command. -/
theorem Operation.owner_of_permits {operation : Operation} {statement : Statement} {write : Write}
    (writing : operation.writing = some statement) (permitted : statement.Permits now write) :
    operation.caller = some write.row.recipientId ∨
      ∃ nowV7 command, operation = .fanOut nowV7 command ∧
        write.row.recipientId ∈ command.recipientIds := by
  cases operation with
  | fanOut nowV7 command =>
    obtain rfl := Option.some.inj writing
    obtain ⟨row, proposed, rfl⟩ := permitted
    obtain ⟨pair, paired, rfl⟩ := List.mem_map.mp proposed
    exact Or.inr ⟨nowV7, command, rfl, (List.of_mem_zip paired).2⟩
  | markAsRead caller id =>
    obtain rfl := Option.some.inj writing
    obtain ⟨row, selected, rfl⟩ := permitted
    simp only [Statement.selects, Bool.and_eq_true, beq_iff_eq] at selected
    exact Or.inl (congrArg some selected.1.2.symm)
  | markAllAsRead utcNow caller =>
    obtain rfl := Option.some.inj writing
    obtain ⟨row, selected, rfl⟩ := permitted
    simp only [Statement.selects, Bool.and_eq_true, beq_iff_eq] at selected
    exact Or.inl (congrArg some selected.2.symm)
  | deleteNotification caller id =>
    obtain rfl := Option.some.inj writing
    obtain ⟨row, selected, rfl⟩ := permitted
    simp only [Statement.selects, Bool.and_eq_true, beq_iff_eq] at selected
    exact Or.inl (congrArg some selected.2.symm)
  | deleteNotifications caller ids =>
    obtain rfl := Option.some.inj writing
    obtain ⟨row, selected, rfl⟩ := permitted
    simp only [Statement.selects, Bool.and_eq_true, beq_iff_eq] at selected
    exact Or.inl (congrArg some selected.2.symm)
  | notifications caller first after => contradiction
  | unreadCount caller => contradiction

end SvcNotifier
