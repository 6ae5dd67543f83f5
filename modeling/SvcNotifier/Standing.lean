import SvcNotifier.FanOut
import SvcNotifier.Queues

/-!
# What a session stands on, and what holds it up

Where the identifiers that are minted are new, a session that is yet to visit a row stands on none
of the rows it comes to. Who may hold it up is told by whose rows these are: a mutation is held up
by mutations of its own recipient only, and a fan-out by fan-outs of its own source event or by
mutations. A mutation of one notification that is yet to visit it holds nothing.
-/

namespace SvcNotifier

open Library Program

namespace Operation

/-- The identifiers an operation mints. -/
def minted : Operation → List Uuid
  | .fanOut nowV7 command => (List.range command.recipientIds.length).map nowV7
  | _ => []

/-- A mutation of the recipient. -/
def MutationOf (recipientId : Uuid) (operation : Operation) : Prop :=
  operation.caller = some recipientId ∧ operation.writing ≠ none

/-- A mutation of the recipient that may write on two rows. -/
def BulkOf (recipientId : Uuid) : Operation → Prop
  | .markAllAsRead _ caller => caller = recipientId
  | .deleteNotifications caller ids =>
    caller = recipientId ∧ ∃ one ∈ ids, ∃ other ∈ ids, one ≠ other
  | _ => False

/-- A fan-out of the source event to at least two recipients. -/
def FansOut (sourceEventId : Uuid) : Operation → Prop
  | .fanOut _ command => command.sourceEventId = sourceEventId ∧ 2 ≤ command.recipientIds.length
  | _ => False

/-- The identifiers of the rows a fan-out proposes are those it mints. -/
theorem minted_of_candidate {operation : Operation} {statement : Statement} {now : DateTime}
    {row : Row} (own : operation.writing = some statement)
    (proposed : row ∈ statement.candidates now) : row.id ∈ operation.minted := by
  cases operation with
  | fanOut nowV7 command =>
    obtain rfl := Option.some.inj own
    obtain ⟨pair, member, rfl⟩ := List.mem_map.mp proposed
    exact (List.of_mem_zip member).1
  | notifications caller first after => contradiction
  | unreadCount caller => contradiction
  | _ =>
    obtain rfl := Option.some.inj own
    contradiction

end Operation

/-- A write that keeps a statement from visiting a row: an INSERT stops at its identifier and at
its dedup key, an UPDATE or a DELETE at the row. -/
def Statement.StopsAt (statement : Statement) (write : Write) (target : Row) : Prop :=
  match statement with
  | .insert .. => write.id = target.id ∨ write.key = target.key
  | _ => write.id = target.id

/-- A row that a statement inserts is one it proposes. -/
theorem Statement.Permits.proposed {now : DateTime} {statement : Statement} {row : Row}
    (permitted : statement.Permits now (.insert row)) : row ∈ statement.candidates now := by
  cases statement with
  | insert ids sourceEventId recipientIds template payload link =>
    obtain ⟨other, proposed, same⟩ := permitted
    exact Write.insert.inj same ▸ proposed
  | markRead id recipientId =>
    obtain ⟨other, -, same⟩ := permitted
    contradiction
  | markAllRead readAt recipientId =>
    obtain ⟨other, -, same⟩ := permitted
    contradiction
  | delete ids recipientId =>
    obtain ⟨other, -, same⟩ := permitted
    contradiction
  | _ =>
    obtain ⟨other, selected, -⟩ := permitted
    contradiction

namespace Store

variable {store after : Store} {initial : List Row} {sid other : Nat} {session : Session}

/-- A session has a row to visit that another one stands on. -/
def HeldUpBy (store : Store) (sid other : Nat) : Prop :=
  other ≠ sid ∧ ∃ session statement next snapshot targets,
    store.sessions sid = some session ∧
      session.stage = .scanning statement next snapshot targets ∧
      ∃ target ∈ targets, ∃ write ∈ store.heldBy other, statement.StopsAt write target

/-- An open session runs an operation of a kind. -/
def Performs (store : Store) (sid : Nat) (kind : Operation → Prop) : Prop :=
  ∃ session, store.sessions sid = some session ∧ kind session.operation

/-! ## Minted identifiers -/

/-- The identifiers a transaction mints when it opens are new: no two are the same, no write has
used any, and no open transaction has minted any. -/
def Coins (store : Store) : Action → Prop
  | .begin _ operation _ => operation.minted.Nodup ∧
      (∀ id ∈ operation.minted, id ∉ store.history.map Write.id) ∧
      ∀ sid session, store.sessions sid = some session →
        operation.minted.Disjoint session.operation.minted
  | _ => True

/-- The identifiers that the open transactions have minted are theirs alone. -/
structure Coined (store : Store) : Prop where
  /-- No two of a transaction are the same. -/
  distinct : ∀ sid session, store.sessions sid = some session → session.operation.minted.Nodup
  /-- No committed write has used one. -/
  unused : ∀ sid session, store.sessions sid = some session →
    ∀ id ∈ session.operation.minted, id ∉ store.history.map Write.id
  /-- No two transactions have minted the same. -/
  apart : ∀ sid other session session', other ≠ sid → store.sessions sid = some session →
    store.sessions other = some session' →
      session.operation.minted.Disjoint session'.operation.minted

/-- A session that is open after a step was open with its operation, or has just opened. -/
theorem operation_before {action : Action} {later : Session}
    (stepped : store.step action = some after) (found : after.sessions sid = some later) :
    (∃ session, store.sessions sid = some session ∧ later.operation = session.operation) ∨
      ∃ operation now, action = .begin sid operation now ∧ later.operation = operation ∧
        store.sessions sid = none := by
  obtain ⟨acted, turn, others⟩ := turn_of_step stepped
  by_cases same : sid = acted
  · subst same
    cases turn with
    | opens asked idle unused opened none_ =>
      obtain rfl := Option.some.inj (opened.symm.trans found)
      exact Or.inr ⟨_, _, asked, rfl, idle⟩
    | goesOn was unfailed unreturned left kind kept =>
      obtain rfl := Option.some.inj (left.symm.trans found)
      exact Or.inl ⟨_, was, kind⟩
    | commits asked was at_ left ended =>
      rw [left] at found
      contradiction
    | rollsBack asked was left ended =>
      rw [left] at found
      contradiction
  · rw [(others sid same).1] at found
    exact Or.inl ⟨later, found, rfl⟩

/-- What a session holds is on an identifier it has minted or on one that has been used. -/
theorem id_of_held {write : Write} (sound : Sound initial store)
    (writing : store.Writing sid session) (member : write ∈ store.heldBy sid) :
    write.id ∈ session.operation.minted ∨ write.id ∈ store.history.map Write.id := by
  have lawful := sound.consistent.lawful sid
  cases write with
  | insert row =>
    obtain ⟨statement, own, permitted⟩ := writing.held _ member
    exact Or.inl (Operation.minted_of_candidate own permitted.proposed)
  | setRead row readAt =>
    exact Or.inr (sound.consistent.known (lawful.reads row readAt member).1)
  | delete row => exact Or.inr (sound.consistent.known (lawful.deletes row member))

/-- Only a commit uses identifiers, and those the committing session holds. -/
theorem used_by_step {action : Action} {id : Uuid} (stepped : store.step action = some after)
    (used : id ∈ after.history.map Write.id) :
    id ∈ store.history.map Write.id ∨ ∃ acted, store.sessions acted ≠ none ∧
      after.sessions acted = none ∧ id ∈ (store.heldBy acted).map Write.id := by
  cases moves_of_step stepped with
  | @commit acted session answer found at_ =>
    have grown : id ∈ (store.history ++ store.heldBy acted).map Write.id := used
    rw [List.map_append, List.mem_append] at grown
    refine grown.imp_right fun held => ⟨acted, ?_, ?_, held⟩
    · rw [found]
      exact Option.some_ne_none session
    · exact Function.update_self _ _ _
  | _ => exact Or.inl used

/-- Every step keeps the minted identifiers apart. -/
theorem coined_step {action : Action} (sound : Sound initial store) (writing : store.AllWriting)
    (coined : store.Coined) (coins : store.Coins action)
    (stepped : store.step action = some after) : after.Coined where
  distinct sid later found := by
    rcases operation_before stepped found with ⟨session, was, same⟩ | ⟨operation, now, rfl, same, -⟩
    · rw [same]
      exact coined.distinct sid session was
    · rw [same]
      exact coins.1
  unused sid later found id minted used := by
    rcases operation_before stepped found with ⟨session, was, same⟩ | ⟨operation, now, rfl, same, -⟩
    · rw [same] at minted
      rcases used_by_step stepped used with old | ⟨acted, opened, closed, held⟩
      · exact coined.unused sid session was id minted old
      · -- The commit is of another session, which holds none of these identifiers.
        obtain ⟨session', is⟩ := Option.ne_none_iff_exists'.mp opened
        obtain ⟨write, member, rfl⟩ := List.mem_map.mp held
        have other : acted ≠ sid := by
          rintro rfl
          rw [closed] at found
          contradiction
        rcases id_of_held sound (writing acted session' is) member with own | old
        · exact coined.apart sid acted session session' other was is minted own
        · exact coined.unused sid session was _ minted old
    · rw [same] at minted
      have old : id ∈ store.history.map Write.id := by
        rcases used_by_step stepped used with old | ⟨acted, opened, closed, held⟩
        · exact old
        · cases moves_of_step stepped
          by_cases own : acted = sid
          · subst own
            rw [closed] at found
            contradiction
          · rw [put_sessions_other store own] at closed
            exact absurd closed opened
      exact coins.2.1 id minted old
  apart sid other session session' different found found' := by
    rcases operation_before stepped found with ⟨one, was, same⟩ | ⟨operation, now, rfl, same, idle⟩
    · rcases operation_before stepped found' with ⟨two, is, same'⟩ | ⟨operation, now, rfl, same', -⟩
      · rw [same, same']
        exact coined.apart sid other one two different was is
      · rw [same, same']
        exact (coins.2.2 sid one was).symm
    · rcases operation_before stepped found' with ⟨two, is, same'⟩ | ⟨operation', now', asked, -⟩
      · rw [same, same']
        exact coins.2.2 other two is
      · have own : sid = other := by
          injection asked
        exact absurd own.symm different

/-! ## What a session stands on and what it waits to visit -/

/-- No row that a session has yet to visit is one it stands on, and it visits none twice. -/
def AllApart (store : Store) : Prop :=
  ∀ sid session statement next snapshot targets, store.sessions sid = some session →
    session.stage = .scanning statement next snapshot targets →
    ((store.heldBy sid).map Write.id ++ targets.map Row.id).Nodup

/-- The targets of a statement are different rows. -/
theorem targets_distinct {statement : Statement} (sound : Sound initial store)
    (distinct : session.operation.minted.Nodup)
    (own : session.operation.writing = some statement) (sees : Row → Bool) :
    ((statement.targets session.now (store.rows.filter sees)).map Row.id).Nodup := by
  have selected : (((store.rows.filter sees).filter statement.selects).map Row.id).Nodup :=
    sound.consistent.unique.ids.sublist
      ((List.filter_sublist.trans List.filter_sublist).map Row.id)
  cases operation : session.operation with
  | fanOut nowV7 command =>
    rw [operation] at own distinct
    obtain rfl := Option.some.inj own
    show (((Operation.insertion nowV7 command).candidates session.now).map Row.id).Nodup
    rw [candidates_ids]
    exact distinct
  | notifications caller first after =>
    rw [operation] at own
    contradiction
  | unreadCount caller =>
    rw [operation] at own
    contradiction
  | _ =>
    rw [operation] at own
    obtain rfl := Option.some.inj own
    exact selected

/-- A row that has been visited is one that the session may stand on from then on. -/
theorem apart_of_visit {ids : List Uuid} {targets : List Row} {index : Nat} {target : Row}
    {writes : List Write} (apart : (ids ++ targets.map Row.id).Nodup)
    (aimed : targets[index]? = some target)
    (wrote : writes = [] ∨ ∃ write, writes = [write] ∧ write.id = target.id) :
    (ids ++ writes.map Write.id ++ (targets.eraseIdx index).map Row.id).Nodup := by
  have visited : (ids ++ (target.id :: (targets.eraseIdx index).map Row.id)).Nodup :=
    (((perm_of_aimed aimed).map Row.id).append_left ids).nodup_iff.mpr apart
  rcases wrote with rfl | ⟨write, rfl, same⟩
  · rw [List.map_nil, List.append_nil]
    exact visited.sublist ((List.sublist_cons_self _ _).append_left ids)
  · rw [List.map_singleton, same, List.append_assoc]
    exact visited

/-- What the others stand on and have yet to visit stays apart over a step. -/
theorem AllApart.update {action : Action} (apart : store.AllApart)
    (stepped : store.step action = some after)
    (own : ∀ session statement next snapshot targets, after.sessions action.sid = some session →
      session.stage = .scanning statement next snapshot targets →
      ((after.heldBy action.sid).map Write.id ++ targets.map Row.id).Nodup) : after.AllApart := by
  intro other session statement next snapshot targets found at_
  by_cases same : other = action.sid
  · rw [same] at found ⊢
    exact own session statement next snapshot targets found at_
  · obtain ⟨sessions, held⟩ := others_of_step stepped other same
    rw [held]
    exact apart other session statement next snapshot targets (sessions ▸ found) at_

/-- Every step leaves the rows stood on and the rows to visit apart. -/
theorem apart_step {action : Action} (sound : Sound initial store) (writing : store.AllWriting)
    (coined : store.Coined) (apart : store.AllApart) (stepped : store.step action = some after) :
    after.AllApart := by
  apply apart.update stepped
  intro later statement' next' snapshot' targets' isLater scanning
  cases moves_of_step stepped with
  | @begin sid operation now idle unused =>
    obtain rfl : Session.start operation now = later := by
      simpa [put, Action.sid] using isLater
    contradiction
  | @reply sid session statement next found at_ reads =>
    obtain rfl : session.resume statement _ = later := by simpa [put, Action.sid] using isLater
    contradiction
  | @scan sid session statement next found at_ writes =>
    have owes := sound.verified sid session found
    have writer := (writing sid session found).writer
    simp only [Verified, at_] at owes
    simp only [Session.Writer, at_] at writer
    obtain rfl : _ = later := by simpa [put, Action.sid] using isLater
    cases scanning
    have clean : store.heldBy sid = [] := owes.1 writes
    rw [Action.sid, heldBy_put, clean]
    exact targets_distinct sound (coined.distinct sid session found) (writer.1 writes).1 _
  | @visit sid index session statement next snapshot targets target writes found at_ aimed free
      written =>
    obtain rfl : _ = later := by simpa [put, Action.sid] using isLater
    cases scanning
    rw [Action.sid, heldBy_put, heldBy_lock_self, List.map_append]
    apply apart_of_visit (apart sid session _ _ _ _ found at_) aimed
    rcases visited_cases free written with rfl | ⟨rfl, -⟩ |
      ⟨current, there, same, selected, -, -, rfl⟩
    · exact Or.inl rfl
    · exact Or.inr ⟨_, rfl, rfl⟩
    · refine Or.inr ⟨_, rfl, ?_⟩
      rw [Write.id, (lawful_write session.now there selected).2]
      exact same
  | @finish sid session statement next snapshot found at_ =>
    obtain rfl : session.resume statement _ = later := by simpa [put, Action.sid] using isLater
    contradiction
  | commit found at_ => simp [close, Action.sid] at isLater
  | rollback found => simp [close, Action.sid] at isLater

/-! ## Whom a session may wait for -/

/-- What holds of the database in every state of a run whose minted identifiers are new. -/
structure Orderly (initial : List Row) (store : Store) : Prop where
  /-- The database is sound. -/
  sound : Sound initial store
  /-- Every id is inserted once. -/
  single : store.Single
  /-- What an open session holds and is about to visit is told by its operation. -/
  writing : store.AllWriting
  /-- The identifiers that the open transactions have minted are theirs alone. -/
  coined : store.Coined
  /-- No session is about to visit a row that it stands on. -/
  apart : store.AllApart

/-- A database just started. -/
theorem start_orderly (table : Notifications) : Orderly table.rows (start table.rows) where
  sound := start_sound table
  single := start_single table
  writing := start_writing table.rows
  coined := ⟨by intro sid session found; contradiction, by intro sid session found; contradiction,
    by intro sid other session session' different found; contradiction⟩
  apart := by
    intro sid session statement next snapshot targets found
    contradiction

/-- Every step whose minted identifiers are new keeps it. -/
theorem orderly_step {action : Action} (orderly : Orderly initial store)
    (coins : store.Coins action) (stepped : store.step action = some after) :
    Orderly initial after where
  sound := sound_step orderly.sound stepped
  single := single_step orderly.sound orderly.single stepped
  writing := writing_step orderly.sound orderly.writing stepped
  coined := coined_step orderly.sound orderly.writing orderly.coined coins stepped
  apart := apart_step orderly.sound orderly.writing orderly.coined orderly.apart stepped

/-- A write on an identifier that has been used is on a row of the table. -/
theorem row_of_held {write : Write} (sound : Sound initial store)
    (member : write ∈ store.heldBy sid) (used : write.id ∈ store.history.map Write.id) :
    write.row ∈ store.rows := by
  have lawful := sound.consistent.lawful sid
  cases write with
  | insert row =>
    have inside : Write.insert row ∈ store.held.map Prod.snd :=
      List.mem_map_of_mem (mem_heldBy.mp member)
    exact absurd used (sound.consistent.fresh row inside)
  | setRead row readAt => exact (lawful.reads row readAt member).1
  | delete row => exact lawful.deletes row member

/-- A session that holds a write on a row of the table is a mutation of its owner's. -/
theorem caller_of_held {write : Write} (sound : Sound initial store)
    (writing : store.Writing sid session) (member : write ∈ store.heldBy sid)
    (there : write.row ∈ store.rows) : session.operation.caller = some write.row.recipientId := by
  obtain ⟨statement, own, permitted⟩ := writing.held write member
  rcases Operation.owner_of_permits own permitted with owner | ⟨nowV7, command, isFanOut, -⟩
  · exact owner
  · -- A fan-out inserts, and what it inserts is not in the table.
    rw [isFanOut] at own
    obtain rfl := Option.some.inj own
    obtain ⟨row, -, rfl⟩ := permitted
    exact absurd (List.mem_map_of_mem there)
      ((sound.consistent.lawful sid).inserts row member).1

/-- A statement that proposes rows acts for nobody. -/
theorem nobody_of_candidate {operation : Operation} {statement : Statement} {now : DateTime}
    {row : Row} (own : operation.writing = some statement)
    (proposed : row ∈ statement.candidates now) : operation.caller = none := by
  cases operation with
  | fanOut nowV7 command => rfl
  | notifications caller first after => contradiction
  | unreadCount caller => contradiction
  | _ =>
    obtain rfl := Option.some.inj own
    contradiction

/-- Only a fan-out acts for nobody. -/
theorem fanOut_of_caller {operation : Operation} (nobody : operation.caller = none) :
    ∃ nowV7 command, operation = .fanOut nowV7 command := by
  cases operation with
  | fanOut nowV7 command => exact ⟨nowV7, command, rfl⟩
  | _ => contradiction

/-- A session that is held up has an operation's statement to go on with, and the one that holds it
up is open. -/
theorem Orderly.held_up_cases (orderly : Orderly initial store)
    (waits : store.HeldUpBy sid other) (found : store.sessions sid = some session) :
    ∃ session' statement target write, store.sessions other = some session' ∧
      session.operation.writing = some statement ∧ store.Aimed session.now statement target ∧
      write ∈ store.heldBy other ∧ statement.StopsAt write target := by
  obtain ⟨-, waiting, statement, next, snapshot, targets, is, at_, target, member, write, held,
    stops⟩ := waits
  obtain rfl := Option.some.inj (found.symm.trans is)
  have stands := orderly.writing sid session found
  obtain ⟨session', found'⟩ := Option.ne_none_iff_exists'.mp
    (orderly.sound.consistent.owned _ (mem_heldBy.mp held))
  exact ⟨session', statement, target, write, found', stands.own at_,
    stands.aimed statement next snapshot targets at_ target member, held, stops⟩

/-- A mutation is held up by mutations of its own caller. -/
theorem Orderly.mutation_held_up {recipientId : Uuid} (orderly : Orderly initial store)
    (waits : store.HeldUpBy sid other) (found : store.sessions sid = some session)
    (caller : session.operation.caller = some recipientId) :
    ∃ session', store.sessions other = some session' ∧
      session'.operation.caller = some recipientId := by
  obtain ⟨session', statement, target, write, found', own, aimed, held, stops⟩ :=
    orderly.held_up_cases waits found
  refine ⟨session', found', ?_⟩
  rcases aimed with proposed | ⟨selected, owned, evolved⟩
  · have nobody := nobody_of_candidate own proposed
    rw [caller] at nobody
    contradiction
  · have same : write.id = target.id := by
      cases statement with
      | insert ids sourceEventId recipientIds template payload link => contradiction
      | _ => exact stops
    have there := row_of_held orderly.sound held (same ▸ owned.used)
    have holder := caller_of_held orderly.sound (orderly.writing other session' found') held there
    have owner := (Operation.caller_of_writing own selected).1
    have kept : write.row.recipientId = target.recipientId := by
      rw [(evolved write.row there same).1]
    rw [holder, kept, ← owner, caller]

/-- The rows a fan-out proposes are of its source event. -/
theorem source_of_candidate {nowV7 : Nat → Uuid} {command : DeliverNotification} {now : DateTime}
    {row : Row} (proposed : row ∈ (Operation.insertion nowV7 command).candidates now) :
    row.sourceEventId = command.sourceEventId := by
  obtain ⟨pair, -, rfl⟩ := List.mem_map.mp proposed
  rfl

/-- A fan-out is held up by mutations and by fan-outs of its own source event. -/
theorem Orderly.fanOut_held_up {nowV7 : Nat → Uuid} {command : DeliverNotification}
    (orderly : Orderly initial store) (waits : store.HeldUpBy sid other)
    (found : store.sessions sid = some session)
    (operation : session.operation = .fanOut nowV7 command) :
    ∃ session', store.sessions other = some session' ∧
      (session'.operation.caller ≠ none ∨ ∃ nowV7' command',
        session'.operation = .fanOut nowV7' command' ∧
          command'.sourceEventId = command.sourceEventId) := by
  obtain ⟨session', statement, target, write, found', own, aimed, held, stops⟩ :=
    orderly.held_up_cases waits found
  refine ⟨session', found', ?_⟩
  by_cases nobody : session'.operation.caller = none
  · right
    obtain ⟨nowV7', command', isFanOut⟩ := fanOut_of_caller nobody
    refine ⟨nowV7', command', isFanOut, ?_⟩
    obtain ⟨statement', own', permitted⟩ := (orderly.writing other session' found').held write held
    have insertion' := own'
    rw [isFanOut] at insertion'
    obtain rfl := Option.some.inj insertion'
    obtain ⟨row, proposed', rfl⟩ := permitted
    have insertion := own
    rw [operation] at insertion
    obtain rfl := Option.some.inj insertion
    have proposed : target ∈ (Operation.insertion nowV7 command).candidates session.now := by
      rcases aimed with proposed | ⟨selected, -⟩
      · exact proposed
      · contradiction
    rcases stops with same | same
    · -- The identifiers of two fan-outs are different.
      have minted := Operation.minted_of_candidate own proposed
      have apart := orderly.coined.apart sid other session session' waits.1 found found'
      have minted' := Operation.minted_of_candidate own' proposed'
      have theirs : target.id ∈ session'.operation.minted := same ▸ minted'
      exact absurd theirs (apart minted)
    · have sources := congrArg Prod.fst same
      have one : row.sourceEventId = command'.sourceEventId := source_of_candidate proposed'
      have two : target.sourceEventId = command.sourceEventId := source_of_candidate proposed
      exact one.symm.trans (sources.trans two)
  · exact Or.inl nobody

/-! ## One row or two -/

/-- A session that acts for somebody and selects two rows, or holds one and selects another, runs a
bulk mutation. -/
theorem bulk_of_two {operation : Operation} {statement : Statement} {recipientId : Uuid}
    {one two : Row} (own : operation.writing = some statement)
    (caller : operation.caller = some recipientId) (first : statement.selects one = true)
    (second : statement.selects two = true) (different : one.id ≠ two.id) :
    operation.BulkOf recipientId := by
  cases operation with
  | fanOut nowV7 command => contradiction
  | notifications caller first after => contradiction
  | unreadCount caller => contradiction
  | markAsRead user id =>
    obtain rfl := Option.some.inj own
    simp only [Statement.selects, Bool.and_eq_true, beq_iff_eq] at first second
    exact absurd (first.1.1.trans second.1.1.symm) different
  | markAllAsRead utcNow user => exact Option.some.inj caller
  | deleteNotification user id =>
    obtain rfl := Option.some.inj own
    simp only [Statement.selects, Bool.and_eq_true, List.contains_eq_mem, List.mem_singleton,
      decide_eq_true_eq] at first second
    exact absurd (first.1.trans second.1.symm) different
  | deleteNotifications user ids =>
    obtain rfl := Option.some.inj own
    simp only [Statement.selects, Bool.and_eq_true, List.contains_eq_mem, decide_eq_true_eq]
      at first second
    exact ⟨Option.some.inj caller, _, first.1, _, second.1, different⟩

/-- A write of a mutation is on a row that its statement selects. -/
theorem selected_of_permits {statement : Statement} {now : DateTime} {write : Write}
    (locks : statement.locksTuple = true) (permitted : statement.Permits now write) :
    ∃ row, statement.selects row = true ∧ write.id = row.id := by
  cases statement with
  | insert ids sourceEventId recipientIds template payload link => contradiction
  | markRead id recipientId =>
    obtain ⟨row, selects, rfl⟩ := permitted
    exact ⟨row, selects, rfl⟩
  | markAllRead readAt recipientId =>
    obtain ⟨row, selects, rfl⟩ := permitted
    exact ⟨row, selects, rfl⟩
  | delete ids recipientId =>
    obtain ⟨row, selects, rfl⟩ := permitted
    exact ⟨row, selects, rfl⟩
  | _ =>
    obtain ⟨row, selects, -⟩ := permitted
    contradiction

/-- What an UPDATE or a DELETE is yet to visit is a row it selects, which was inserted under the
caller of its operation. -/
theorem Orderly.selected (orderly : Orderly initial store) {statement : Statement}
    {next : statement.Reply → Tx Ending} {snapshot targets : List Row} {target : Row}
    (found : store.sessions sid = some session)
    (at_ : session.stage = .scanning statement next snapshot targets) (member : target ∈ targets)
    (locks : statement.locksTuple = true) :
    session.operation.writing = some statement ∧ statement.selects target = true ∧
      session.operation.caller = some target.recipientId ∧
      store.Owned target.recipientId target.id := by
  have stands := orderly.writing sid session found
  have own := stands.own at_
  rcases stands.aimed statement next snapshot targets at_ target member with
    proposed | ⟨selected, owned, -⟩
  · cases statement with
    | insert ids sourceEventId recipientIds template payload link => contradiction
    | _ => contradiction
  · exact ⟨own, selected, (Operation.caller_of_writing own selected).1, owned⟩

/-- A session that is on no bulk mutation and has a row to visit holds nothing, and has no other
row to visit. -/
theorem Orderly.one_row (orderly : Orderly initial store) {statement : Statement}
    {next : statement.Reply → Tx Ending} {snapshot targets : List Row} {target : Row}
    (found : store.sessions sid = some session)
    (at_ : session.stage = .scanning statement next snapshot targets) (member : target ∈ targets)
    (locks : statement.locksTuple = true)
    (light : ∀ recipientId, ¬ session.operation.BulkOf recipientId) :
    store.heldBy sid = [] ∧ ∀ another ∈ targets, another.id = target.id := by
  obtain ⟨own, selected, caller, -⟩ := orderly.selected found at_ member locks
  constructor
  · by_contra some_
    obtain ⟨write, held⟩ := List.exists_mem_of_ne_nil _ some_
    obtain ⟨statement', own', permitted⟩ := (orderly.writing sid session found).held write held
    obtain rfl : statement = statement' := Option.some.inj (own.symm.trans own')
    obtain ⟨row, selects, same⟩ := selected_of_permits locks permitted
    have apart := orderly.apart sid session statement next snapshot targets found at_
    apply light target.recipientId
    apply bulk_of_two own caller selects selected
    intro also
    exact List.disjoint_of_nodup_append apart (List.mem_map_of_mem held)
      (same.trans also ▸ List.mem_map_of_mem member)
  · intro another also
    by_contra different
    obtain ⟨-, selects, -, -⟩ := orderly.selected found at_ also locks
    exact light target.recipientId (bulk_of_two own caller selects selected different)

/-- A fan-out that holds a row and is held up at another has at least two recipients. -/
theorem Orderly.fans {waiter waited : Nat} {nowV7 : Nat → Uuid} {command : DeliverNotification}
    (orderly : Orderly initial store) (waits : store.HeldUpBy sid waited)
    (waitedFor : store.HeldUpBy waiter sid) (found : store.sessions sid = some session)
    (operation : session.operation = .fanOut nowV7 command) :
    session.operation.FansOut command.sourceEventId := by
  obtain ⟨-, session', statement, next, snapshot, targets, is, at_, target, member, -⟩ := waits
  obtain rfl := Option.some.inj (found.symm.trans is)
  obtain ⟨-, -, -, -, -, -, -, -, -, -, write, held, -⟩ := waitedFor
  have stands := orderly.writing sid session found
  obtain ⟨statement', own, permitted⟩ := stands.held write held
  obtain rfl : statement = statement' := Option.some.inj ((stands.own at_).symm.trans own)
  have different : write.id ≠ target.id := by
    have apart := orderly.apart sid session statement next snapshot targets found at_
    intro same
    exact List.disjoint_of_nodup_append apart (List.mem_map_of_mem held)
      (same ▸ List.mem_map_of_mem member)
  have insertion := own
  rw [operation] at insertion
  obtain rfl := Option.some.inj insertion
  obtain ⟨row, proposed, rfl⟩ := permitted
  have aims : target ∈ (Operation.insertion nowV7 command).candidates session.now := by
    rcases stands.aimed _ next snapshot targets at_ target member with proposed | ⟨selected, -⟩
    · exact proposed
    · contradiction
  have one := Operation.minted_of_candidate own proposed
  have two := Operation.minted_of_candidate own aims
  rw [operation] at one two ⊢
  refine ⟨rfl, ?_⟩
  by_contra few
  have short : (Operation.minted (.fanOut nowV7 command)).length ≤ 1 := by
    simp only [Operation.minted, List.length_map, List.length_range]
    omega
  generalize Operation.minted (.fanOut nowV7 command) = ids at one two short
  cases ids with
  | nil => contradiction
  | cons only others =>
    obtain rfl : others = [] := List.eq_nil_of_length_eq_zero (Nat.le_zero.mp
      (Nat.le_of_succ_le_succ short))
    exact different ((List.mem_singleton.mp one).trans (List.mem_singleton.mp two).symm)

end Store

end SvcNotifier
