import SvcNotifier.Journal
import SvcNotifier.Listing

/-!
# The algebra of a fan-out

One fan-out, run to its commit while no other session takes a step, with its targets visited in
any order. What it inserts is told by the recipients of its command and the keys of the table
alone, so that doing it again inserts nothing, and doing it in parts inserts what doing it at
once does, up to the minted ids and the time.
-/

namespace SvcNotifier

open Library Program

/-- The signal of a row that has been inserted. -/
def Row.added (row : Row) : NotificationSignal := .added row.recipientId row.id

/-- A row up to its id and its time. -/
def Row.content (row : Row) : Row := { row with id := sampleId 0, createdAt := ⟨0⟩ }

/-- The content of the row that a command makes for a recipient. -/
def DeliverNotification.rowFor (command : DeliverNotification) (recipientId : Uuid) : Row :=
  { id := sampleId 0, sourceEventId := command.sourceEventId, recipientId := recipientId,
    template := command.template, payload := command.payload,
    link := command.link.map RelativeLink.asStr, readAt := none, createdAt := ⟨0⟩ }

/-- What a fan-out inserts into a table: one unread row, under one of its minted ids, for each
distinct recipient who has none for its event. -/
structure Inserts (nowV7 : Nat → Uuid) (command : DeliverNotification) (now : DateTime)
    (rows inserted : List Row) : Prop where
  /-- The recipients are those the command names who have no row for its event. -/
  recipients : ∀ recipientId, recipientId ∈ inserted.map Row.recipientId ↔
    recipientId ∈ command.recipientIds ∧
      (command.sourceEventId, recipientId) ∉ rows.map Row.key
  /-- No recipient has two. -/
  single : (inserted.map Row.recipientId).Nodup
  /-- The ids are distinct, and none is in the table. -/
  ids : (inserted.map Row.id).Nodup
  /-- No row of the table has one of the ids. -/
  new : ∀ row ∈ inserted, row.id ∉ rows.map Row.id
  /-- Each row is of the command, unread, and under the id minted for its place. -/
  minted : ∀ row ∈ inserted, row.content = command.rowFor row.recipientId ∧
    row.createdAt = now.timestamptz ∧
      ∃ place, command.recipientIds[place]? = some row.recipientId ∧ row.id = nowV7 place

namespace Inserts

variable {nowV7 again : Nat → Uuid} {command : DeliverNotification} {now later : DateTime}
  {rows inserted others : List Row}

/-- The rows inserted are told by their recipients. -/
theorem contents (inserts : Inserts nowV7 command now rows inserted) :
    inserted.map Row.content = (inserted.map Row.recipientId).map command.rowFor := by
  rw [List.map_map]
  refine List.map_congr_left fun row member => ?_
  exact (inserts.minted row member).1

/-- A row inserted is under the key of its recipient. -/
theorem key (inserts : Inserts nowV7 command now rows inserted) {row : Row}
    (member : row ∈ inserted) : row.key = (command.sourceEventId, row.recipientId) := by
  have content := (inserts.minted row member).1
  exact congrArg (fun row : Row => (row.sourceEventId, row.recipientId)) content

/-- Which keys the table has once the rows are in it. -/
theorem mem_keys (inserts : Inserts nowV7 command now rows inserted) (recipientId : Uuid) :
    (command.sourceEventId, recipientId) ∈ (rows ++ inserted).map Row.key ↔
      (command.sourceEventId, recipientId) ∈ rows.map Row.key ∨
        recipientId ∈ command.recipientIds := by
  have keys : (command.sourceEventId, recipientId) ∈ inserted.map Row.key ↔
      recipientId ∈ inserted.map Row.recipientId := by
    constructor
    · intro inside
      obtain ⟨row, member, same⟩ := List.mem_map.mp inside
      rw [inserts.key member] at same
      exact List.mem_map.mpr ⟨row, member, (Prod.mk.inj same).2⟩
    · intro inside
      obtain ⟨row, member, same⟩ := List.mem_map.mp inside
      refine List.mem_map.mpr ⟨row, member, ?_⟩
      rw [inserts.key member, same]
  rw [List.map_append, List.mem_append, keys, inserts.recipients]
  by_cases there : (command.sourceEventId, recipientId) ∈ rows.map Row.key
  · exact iff_of_true (Or.inl there) (Or.inl there)
  · constructor
    · intro either
      exact Or.inr (either.resolve_left there).1
    · intro either
      exact Or.inr ⟨either.resolve_left there, there⟩

/-- Where every recipient has a row, nothing is inserted. -/
theorem nothing (inserts : Inserts nowV7 command now rows inserted)
    (all : ∀ recipientId ∈ command.recipientIds,
      (command.sourceEventId, recipientId) ∈ rows.map Row.key) : inserted = [] := by
  cases inserted with
  | nil => rfl
  | cons row rest =>
    have wanted := (inserts.recipients row.recipientId).mp List.mem_cons_self
    exact absurd (all row.recipientId wanted.1) wanted.2

/-- Rows inserted for the same recipients are the same up to their ids and times. -/
theorem perm (inserts : Inserts nowV7 command now rows inserted)
    (single : (others.map Row.recipientId).Nodup)
    (contents_ : others.map Row.content = (others.map Row.recipientId).map command.rowFor)
    (same : ∀ recipientId, recipientId ∈ inserted.map Row.recipientId ↔
      recipientId ∈ others.map Row.recipientId) :
    (inserted.map Row.content).Perm (others.map Row.content) := by
  have recipients : (inserted.map Row.recipientId).Perm (others.map Row.recipientId) :=
    (List.perm_ext_iff_of_nodup inserts.single single).mpr same
  rw [inserts.contents, contents_]
  exact recipients.map command.rowFor

/-- What is inserted in two parts is what is inserted at once, where the two parts name the same
recipients. -/
theorem pieces {ys zs : List Uuid} {first second : Nat → Uuid} {whole part rest : List Row}
    {start finish_ : DateTime} (atOnce : Inserts nowV7 command now rows whole)
    (begins : Inserts first { command with recipientIds := ys } start rows part)
    (ends : Inserts second { command with recipientIds := zs } finish_ (rows ++ part) rest)
    (covers : ∀ recipientId, recipientId ∈ command.recipientIds ↔
      recipientId ∈ ys ∨ recipientId ∈ zs) :
    (whole.map Row.content).Perm ((part ++ rest).map Row.content) := by
  have inRest : ∀ recipientId, recipientId ∈ rest.map Row.recipientId ↔ recipientId ∈ zs ∧
      (command.sourceEventId, recipientId) ∉ rows.map Row.key ∧ recipientId ∉ ys := by
    intro recipientId
    have keys := begins.mem_keys recipientId
    rw [ends.recipients, keys, not_or]
  have inPart := begins.recipients
  refine atOnce.perm ?_ ?_ ?_
  · rw [List.map_append, List.nodup_append]
    refine ⟨begins.single, ends.single, ?_⟩
    intro left inside right there same
    subst same
    exact ((inRest left).mp there).2.2 ((inPart left).mp inside).1
  · have partContents := begins.contents
    have restContents := ends.contents
    rw [List.map_append, List.map_append, List.map_append, partContents, restContents]
    rfl
  · intro recipientId
    rw [atOnce.recipients, List.map_append, List.mem_append, inPart, inRest, covers]
    constructor
    · intro wanted
      by_cases inFirst : recipientId ∈ ys
      · exact Or.inl ⟨inFirst, wanted.2⟩
      · exact Or.inr ⟨wanted.1.resolve_left inFirst, wanted.2, inFirst⟩
    · intro either
      rcases either with one | two
      · exact ⟨Or.inl one.1, one.2⟩
      · exact ⟨Or.inr two.1, two.2.1⟩

end Inserts

/-! ## A fan-out alone -/

namespace Store

variable {store late after : Store} {sid : Nat} {session : Session} {initial : List Row}
  {nowV7 : Nat → Uuid} {command : DeliverNotification} {now : DateTime}

/-- The session that takes a step. -/
def Action.actor : Action → Nat
  | .begin sid _ _ => sid
  | .advance sid => sid
  | .visit sid _ => sid
  | .finish sid => sid
  | .commit sid => sid
  | .rollback sid => sid

/-- No other session takes a step. -/
def Alone (sid : Nat) (_ : Store) (action : Action) : Prop := action.actor = sid

/-- A fan-out runs alone from its beginning to its commit, and returns how many rows it wrote. -/
def FansOut (store : Store) (nowV7 : Nat → Uuid) (command : DeliverNotification) (now : DateTime)
    (written : Nat) (after : Store) : Prop :=
  ∃ sid opened actions late, store.step (.begin sid (.fanOut nowV7 command) now) = some opened ∧
    Steps step (Alone sid) opened actions late ∧ late.step (.commit sid) = some after ∧
    after.outcomes sid = some (.fanOut nowV7 command, .committed (.ok (.written written)))

/-- The rows are added to the table and announced, each once, and nothing else happens. -/
structure Adds (store : Store) (inserted : List Row) (after : Store) : Prop where
  /-- They are appended to the table. -/
  rows : after.rows = store.rows ++ inserted
  /-- Each is announced. -/
  log : after.log = store.log ++ inserted.map Row.added

/-- The key is in the table, or the session has inserted it. -/
def Here (store : Store) (sid : Nat) (key : Uuid × Uuid) : Prop :=
  key ∈ store.rows.map Row.key ∨ key ∈ (store.heldBy sid).map Write.key

/-- Every row that the statements of a session proposed is in the table or inserted, up to the
targets still to visit. -/
def Collected (store : Store) (sid : Nat) (session : Session) : Prop :=
  (∀ statement ∈ session.executed, ∀ row ∈ statement.candidates session.now,
    store.Here sid row.key) ∧
  match session.stage with
  | .ready _ => True
  | .scanning statement _ _ targets => ∀ row ∈ statement.candidates session.now,
      row ∈ targets ∨ store.Here sid row.key

/-- How a fan-out that runs alone stands: the table is as it was. -/
structure Fanning (store : Store) (sid : Nat) (operation : Operation) (now : DateTime)
    (late : Store) (session : Session) : Prop where
  /-- The table is as it was. -/
  rows : late.rows = store.rows
  /-- So is the log. -/
  log : late.log = store.log
  /-- The session is open. -/
  found : late.sessions sid = some session
  /-- It runs the operation it was opened for. -/
  operation : session.operation = operation
  /-- Its clock is that of its start. -/
  now : session.now = now
  /-- What it has proposed is in the table or inserted, up to what it has yet to visit. -/
  collected : late.Collected sid session

/-- Visiting a proposed row of an INSERT: its key is here then. -/
theorem here_of_visit {statement : Statement} {target : Row} {writes : List Write}
    (proposed : target ∈ statement.candidates session.now)
    (written : store.writesAt sid session statement target = some writes) :
    (store.lock sid writes).Here sid target.key := by
  cases statement with
  | insert ids sourceEventId recipientIds template payload link =>
    simp only [writesAt] at written
    split at written
    · rename_i conflict
      obtain rfl := Option.some.inj written
      simp only [conflicts, Bool.or_eq_true, List.any_eq_true, beq_iff_eq] at conflict
      rcases conflict with ⟨row, member, same⟩ | ⟨write, member, same⟩
      · exact Or.inl (List.mem_map.mpr ⟨row, member, same⟩)
      · right
        rw [heldBy_lock_self, List.append_nil]
        exact List.mem_map.mpr ⟨write, member, same⟩
    · split at written
      · contradiction
      · obtain rfl := Option.some.inj written
        right
        rw [heldBy_lock_self, List.map_append, List.mem_append]
        exact Or.inr List.mem_cons_self
  | _ => simp [Statement.candidates] at proposed

/-- A step of the session that runs alone. -/
theorem fanning_step {operation : Operation} {action : Action}
    (fanning : store.Fanning sid operation now late session) (own : action.actor = sid)
    (stepped : late.step action = some after) :
    (after.sessions sid = none ∧ after.outcomes sid ≠ none) ∨
      ∃ session, store.Fanning sid operation now after session := by
  have found := fanning.found
  obtain ⟨ran, waiting⟩ := fanning.collected
  cases moves_of_step stepped with
  | @begin acted began at_ idle unused =>
    obtain rfl : acted = sid := own
    rw [found] at idle
    contradiction
  | @reply acted was statement next is at_ reads =>
    obtain rfl : acted = sid := own
    obtain rfl := Option.some.inj (found.symm.trans is)
    refine Or.inr ⟨_, fanning.rows, fanning.log, put_sessions_self late acted _, fanning.operation,
      fanning.now, ?_, trivial⟩
    intro executed member row proposed
    rcases List.mem_append.mp member with old | new
    · exact ran executed old row proposed
    · obtain rfl := List.mem_singleton.mp new
      rw [candidates_of_reads reads] at proposed
      cases proposed
  | @scan acted was statement next is at_ writes =>
    obtain rfl : acted = sid := own
    obtain rfl := Option.some.inj (found.symm.trans is)
    refine Or.inr ⟨_, fanning.rows, fanning.log, put_sessions_self late acted _, fanning.operation,
      fanning.now, ran, ?_⟩
    intro row proposed
    left
    cases statement with
    | insert ids sourceEventId recipientIds template payload link => exact proposed
    | _ => simp [Statement.candidates] at proposed
  | @visit acted index was statement next snapshot targets target writes is at_ aimed free
      written =>
    obtain rfl : acted = sid := own
    obtain rfl := Option.some.inj (found.symm.trans is)
    simp only [at_] at waiting
    have kept : ∀ key, late.Here acted key → (late.lock acted writes).Here acted key := by
      intro key here
      rcases here with table | held
      · exact Or.inl table
      · right
        rw [heldBy_lock_self, List.map_append, List.mem_append]
        exact Or.inl held
    refine Or.inr ⟨_, fanning.rows, fanning.log, put_sessions_self (late.lock acted writes) acted _,
      fanning.operation, fanning.now, ?_, ?_⟩
    · intro executed member row proposed
      exact kept _ (ran executed member row proposed)
    · intro row proposed
      rcases waiting row proposed with ahead | here
      · by_cases visited : row = target
        · subst visited
          exact Or.inr (here_of_visit proposed written)
        · left
          obtain ⟨inside, at_index⟩ := List.getElem?_eq_some_iff.mp aimed
          have split : targets.Perm (target :: targets.eraseIdx index) :=
            at_index ▸ (List.getElem_cons_eraseIdx_perm inside).symm
          exact (List.mem_cons.mp (split.mem_iff.mp ahead)).resolve_left visited
      · exact Or.inr (kept _ here)
  | @finish acted was statement next snapshot is at_ =>
    obtain rfl : acted = sid := own
    obtain rfl := Option.some.inj (found.symm.trans is)
    simp only [at_] at waiting
    refine Or.inr ⟨_, fanning.rows, fanning.log, put_sessions_self late acted _, fanning.operation,
      fanning.now, ?_, trivial⟩
    intro executed member row proposed
    rcases List.mem_append.mp member with old | new
    · exact ran executed old row proposed
    · obtain rfl := List.mem_singleton.mp new
      exact (waiting row proposed).resolve_left List.not_mem_nil
  | @commit acted was answer is at_ =>
    obtain rfl : acted = sid := own
    left
    simp [close]
  | @rollback acted was is =>
    obtain rfl : acted = sid := own
    left
    simp [close]

/-- A fan-out that runs alone has ended, or stands as it does. -/
def Underway (store : Store) (sid : Nat) (operation : Operation) (now : DateTime) (late : Store) :
    Prop :=
  (late.sessions sid = none ∧ late.outcomes sid ≠ none) ∨
    ∃ session, store.Fanning sid operation now late session

/-- A step of a session that runs alone. -/
theorem Underway.step {operation : Operation} {action : Action}
    (underway : store.Underway sid operation now late) (own : action.actor = sid)
    (stepped : late.step action = some after) : store.Underway sid operation now after := by
  rcases underway with ⟨gone, ended⟩ | ⟨session, fanning⟩
  · exact Or.inl (ended_step stepped gone ended)
  · exact fanning_step fanning own stepped

/-- The number that a fan-out which commits returns. -/
def Counts (_ : DateTime) (operation : Operation) (ending : Ending) (after : Progress) : Prop :=
  ∀ nowV7 command answer, operation = .fanOut nowV7 command → ending = .commit answer →
    answer = .ok (.written after.writes.length)

/-- A fan-out that commits returns how many rows it wrote. -/
theorem counts_ensures (now : DateTime) (operation : Operation) :
    Ensures (txContract now) (Counts now operation) operation.body Progress.start := by
  cases operation with
  | fanOut nowV7 command =>
    refine Ensures.bind ((insertNotifications_ensures _ _ _ _ _ _ ⟨rfl, rfl⟩
      (Operation.insertion nowV7 command) rfl).mono ?_)
    intro written after announced again named answer same ended
    obtain rfl := Ending.commit.inj ended
    rw [announced.2.1]
  | _ =>
    refine (operation_ensures now _).mono ?_
    intro ending after _ nowV7 command answer same
    contradiction

/-- A row proposed for a recipient is of the command, under the id minted for its place. -/
theorem mem_candidates {row : Row} :
    row ∈ (Operation.insertion nowV7 command).candidates now ↔
      ∃ place recipientId, command.recipientIds[place]? = some recipientId ∧
        row = { command.rowFor recipientId with
          id := nowV7 place
          createdAt := now.timestamptz } := by
  have made : (Operation.insertion nowV7 command).candidates now =
      (((List.range command.recipientIds.length).map nowV7).zip command.recipientIds).map
        fun pair => { command.rowFor pair.2 with id := pair.1, createdAt := now.timestamptz } := rfl
  rw [made, List.mem_map]
  constructor
  · intro proposed
    obtain ⟨pair, paired, rfl⟩ := proposed
    obtain ⟨place, inside, same⟩ := List.mem_iff_getElem.mp paired
    rw [List.length_zip, List.length_map, List.length_range, Nat.min_self] at inside
    have named : pair.2 = command.recipientIds[place] := by rw [← same, List.getElem_zip]
    have minted : pair.1 = nowV7 place := by
      rw [← same, List.getElem_zip, List.getElem_map, List.getElem_range]
    refine ⟨place, pair.2, ?_, ?_⟩
    · rw [named]
      exact List.getElem?_eq_getElem inside
    · rw [minted]
  · intro named
    obtain ⟨place, recipientId, at_, rfl⟩ := named
    obtain ⟨inside, same⟩ := List.getElem?_eq_some_iff.mp at_
    refine ⟨(nowV7 place, recipientId), ?_, rfl⟩
    refine List.mem_iff_getElem.mpr ⟨place, ?_, ?_⟩
    · rw [List.length_zip, List.length_map, List.length_range, Nat.min_self]
      exact inside
    · rw [List.getElem_zip, List.getElem_map, List.getElem_range, same]

/-- Applying inserts adds their rows to the table. -/
theorem applyWrites_inserts (rows inserted : List Row) :
    applyWrites rows (inserted.map .insert) = rows ++ inserted := by
  induction inserted generalizing rows with
  | nil => exact (List.append_nil rows).symm
  | cons row inserted ih =>
    have step := ih (rows ++ [row])
    rw [List.append_assoc, List.singleton_append] at step
    exact step

/-- Signals that state inserts, and nothing else, are one `Added` for each row. -/
theorem queued_of_inserts {inserted : List Row} {queued : List NotificationSignal}
    (announces : Announces (inserted.map .insert) queued) : queued = inserted.map Row.added := by
  obtain ⟨facts, sized, -⟩ := announces
  induction queued generalizing inserted with
  | nil =>
    have none_ : (inserted.map Write.insert).map Write.fact = [] := facts.symm
    rw [List.map_eq_nil_iff, List.map_eq_nil_iff] at none_
    rw [none_]
    rfl
  | cons signal queued ih =>
    have some_ := (sized signal List.mem_cons_self).1
    have rest : ∀ later ∈ queued, later.Sized :=
      fun later member => sized later (List.mem_cons_of_mem signal member)
    rw [List.flatMap_cons] at facts
    cases inserted with
    | nil =>
      have none_ := (List.append_eq_nil_iff.mp facts).1
      rw [none_] at some_
      contradiction
    | cons row inserted =>
      rw [List.map_cons, List.map_cons] at facts
      -- The first fact is the row's, so the signal is its `Added`.
      cases signal with
      | added recipientId id =>
        obtain ⟨same, later⟩ := List.cons.inj facts
        obtain ⟨rfl, rfl⟩ : recipientId = row.recipientId ∧ id = row.id := by
          injection same with kind owner named
          exact ⟨owner, named⟩
        rw [ih later rest]
        rfl
      | read recipientId ids readAt =>
        cases ids with
        | nil => contradiction
        | cons id ids =>
          have kind := congrArg Fact.kind (List.cons.inj facts).1
          contradiction
      | deleted recipientId ids =>
        cases ids with
        | nil => contradiction
        | cons id ids =>
          have kind := congrArg Fact.kind (List.cons.inj facts).1
          contradiction

/-- Writes that insert proposed rows, as the rows they insert. -/
theorem exists_inserted {writes : List Write}
    (proposed : ∀ write ∈ writes, ∃ row, write = .insert row ∧
      row ∈ (Operation.insertion nowV7 command).candidates now) :
    ∃ inserted : List Row, writes = inserted.map .insert ∧
      ∀ row ∈ inserted, row ∈ (Operation.insertion nowV7 command).candidates now := by
  refine ⟨writes.map Write.row, ?_, ?_⟩
  · rw [List.map_map]
    conv_lhs => rw [← List.map_id writes]
    refine List.map_congr_left fun write member => ?_
    obtain ⟨row, rfl, -⟩ := proposed write member
    rfl
  · intro row member
    obtain ⟨write, inside, rfl⟩ := List.mem_map.mp member
    obtain ⟨row, rfl, candidate⟩ := proposed write inside
    exact candidate

/-- Proposed rows that go with the table, and leave no proposed key out, are what the command
inserts. -/
theorem inserts_of_collected {rows inserted : List Row}
    (lawful : Lawful rows (inserted.map .insert))
    (among : ∀ row ∈ inserted, row ∈ (Operation.insertion nowV7 command).candidates now)
    (collected : ∀ row ∈ (Operation.insertion nowV7 command).candidates now,
      row.key ∈ rows.map Row.key ∨ row.key ∈ inserted.map Row.key) :
    Inserts nowV7 command now rows inserted := by
  have made : ∀ row ∈ inserted, row.key = (command.sourceEventId, row.recipientId) := by
    intro row member
    obtain ⟨place, recipientId, -, rfl⟩ := mem_candidates.mp (among row member)
    rfl
  have keys : (inserted.map Row.key).Nodup := by
    have distinct := lawful.keys
    rw [List.map_map] at distinct
    exact distinct
  have fresh : ∀ row ∈ inserted, row.id ∉ rows.map Row.id ∧ row.key ∉ rows.map Row.key :=
    fun row member => lawful.inserts row (List.mem_map_of_mem member)
  refine ⟨?_, ?_, ?_, fun row member => (fresh row member).1, ?_⟩
  · intro recipientId
    constructor
    · intro inside
      obtain ⟨row, member, rfl⟩ := List.mem_map.mp inside
      obtain ⟨place, named, at_, same⟩ := mem_candidates.mp (among row member)
      have new := (fresh row member).2
      rw [made row member] at new
      rw [same]
      exact ⟨List.mem_of_getElem? at_, by rw [same] at new; exact new⟩
    · intro wanted
      obtain ⟨place, inside, named⟩ := List.mem_iff_getElem.mp wanted.1
      have candidate : ({ command.rowFor recipientId with
          id := nowV7 place
          createdAt := now.timestamptz } : Row) ∈
            (Operation.insertion nowV7 command).candidates now :=
        mem_candidates.mpr ⟨place, recipientId,
          by rw [← named]; exact List.getElem?_eq_getElem inside,
          rfl⟩
      have there := (collected _ candidate).resolve_left wanted.2
      obtain ⟨row, member, same⟩ := List.mem_map.mp there
      rw [made row member] at same
      exact List.mem_map.mpr ⟨row, member, (Prod.mk.inj same).2⟩
  · refine List.Nodup.of_map (fun recipientId => (command.sourceEventId, recipientId)) ?_
    rw [List.map_map]
    refine (List.map_congr_left fun row member => ?_) ▸ keys
    exact made row member
  · have distinct := lawful.ids
    rw [List.map_map] at distinct
    exact distinct
  · intro row member
    obtain ⟨place, recipientId, at_, rfl⟩ := mem_candidates.mp (among row member)
    exact ⟨rfl, rfl, place, at_, rfl⟩

/-- What a fan-out that has run alone inserts when it commits. -/
theorem Fanning.commits {written : Nat}
    (fanning : store.Fanning sid (.fanOut nowV7 command) now late session)
    (sound : Sound initial late) (counted : AllVerified Counts late)
    (stepped : late.step (.commit sid) = some after)
    (ended : after.outcomes sid =
      some (.fanOut nowV7 command, .committed (.ok (.written written)))) :
    ∃ inserted, Inserts nowV7 command now store.rows inserted ∧ store.Adds inserted after ∧
      written = inserted.length := by
  cases moves_of_step stepped with
  | @commit _ was answer is at_ =>
    obtain rfl := Option.some.inj (fanning.found.symm.trans is)
    have same : answer = .ok (.written written) := by
      have here : (Function.update late.outcomes sid
          (some (session.operation, Outcome.committed answer))) sid = some
            (.fanOut nowV7 command, .committed (.ok (.written written))) := ended
      rw [Function.update_self] at here
      have outcome := congrArg Prod.snd (Option.some.inj here)
      exact Outcome.committed.inj outcome
    have settled := sound.verified.at_commit fanning.found at_
    have counts := counted.at_commit fanning.found at_ nowV7 command answer fanning.operation rfl
    have lawful := sound.consistent.lawful sid
    rw [fanning.operation, fanning.now] at settled
    rw [fanning.rows] at lawful
    obtain ⟨announced, executed⟩ := settled
    have announces : Announces (late.heldBy sid) session.queued := announced.announces
    have collected := fanning.collected.1 _ (executed nowV7 command rfl)
    rw [fanning.now] at collected
    have proposed : ∀ write ∈ late.heldBy sid, ∃ row, write = .insert row ∧
        row ∈ (Operation.insertion nowV7 command).candidates now := by
      intro write member
      obtain ⟨statement, writing, permitted⟩ := announced.made write member
      obtain rfl := Option.some.inj writing
      obtain ⟨row, inside, rfl⟩ := permitted
      exact ⟨row, rfl, inside⟩
    obtain ⟨inserted, held, among⟩ := exists_inserted proposed
    rw [held] at lawful announces
    have inserts : Inserts nowV7 command now store.rows inserted := by
      refine inserts_of_collected lawful among fun row candidate => ?_
      have here := collected row candidate
      rw [Here, fanning.rows, held, List.map_map] at here
      exact here
    refine ⟨inserted, inserts, ⟨?_, ?_⟩, ?_⟩
    · show applyWrites late.rows (late.heldBy sid) = _
      rw [fanning.rows, held, applyWrites_inserts]
    · show late.log ++ session.queued = _
      rw [fanning.log, queued_of_inserts announces]
    · rw [same] at counts
      have number := Answer.written.inj (Except.ok.inj counts)
      rw [number, show (late.heldBy sid).length = inserted.length by rw [held, List.length_map]]

/-- A fan-out that runs alone does what it is for. -/
theorem Sound.fansOut {written : Nat} (sound : Sound initial store)
    (counted : AllVerified Counts store) (fansOut : store.FansOut nowV7 command now written after) :
    ∃ inserted, Inserts nowV7 command now store.rows inserted ∧ store.Adds inserted after ∧
      written = inserted.length := by
  obtain ⟨sid, opened, actions, late, begun, run, committed, ended⟩ := fansOut
  have opens : store.Fanning sid (.fanOut nowV7 command) now opened
      (.start (.fanOut nowV7 command) now) := by
    cases moves_of_step begun with
    | begin idle unused =>
      refine ⟨rfl, rfl, put_sessions_self store sid _, rfl, rfl, ?_, trivial⟩
      intro statement member
      cases member
  have keeps : ∀ (s : Store) (a : Action) (t : Store),
      (Sound initial s ∧ AllVerified Counts s) ∧ store.Underway sid (.fanOut nowV7 command) now s →
      Alone sid s a → s.step a = some t →
      (Sound initial t ∧ AllVerified Counts t) ∧
        store.Underway sid (.fanOut nowV7 command) now t := by
    intro s a t held own stepped
    obtain ⟨⟨sound, counted⟩, underway⟩ := held
    exact ⟨⟨sound_step sound stepped,
      verified_step counts_ensures sound.consistent counted stepped⟩,
      underway.step own stepped⟩
  have begins : (Sound initial opened ∧ AllVerified Counts opened) ∧
      store.Underway sid (.fanOut nowV7 command) now opened :=
    ⟨⟨sound_step sound begun, verified_step counts_ensures sound.consistent counted begun⟩,
      Or.inr ⟨_, opens⟩⟩
  obtain ⟨⟨soundLate, countedLate⟩, underway⟩ := run.invariant keeps begins
  rcases underway with ⟨gone, -⟩ | ⟨session, fanning⟩
  · -- A session that is closed does not commit.
    cases moves_of_step committed with
    | commit found at_ =>
      rw [gone] at found
      contradiction
  · exact fanning.commits soundLate countedLate committed ended

/-! ## A fan-out can be run -/

/-- No transaction is open. -/
def Quiet (store : Store) : Prop := ∀ sid, store.sessions sid = none

/-- The first identifiers a call mints are distinct, and new to the database. -/
structure Mints (store : Store) (nowV7 : Nat → Uuid) (length : Nat) : Prop where
  /-- No two are the same. -/
  distinct : ∀ i j, i < length → j < length → nowV7 i = nowV7 j → i = j
  /-- No committed write has used one. -/
  new : ∀ i, i < length → nowV7 i ∉ store.history.map Write.id

/-- A step leaves the sessions of others alone. -/
theorem others_step {action : Action} (stepped : store.step action = some after) {other : Nat}
    (apart : other ≠ action.actor) : after.sessions other = store.sessions other := by
  cases moves_of_step stepped with
  | commit found at_ => simp_all [close, publish, Action.actor]
  | rollback found => simp_all [close, Action.actor]
  | _ => exact put_sessions_other _ apart _

/-- A session that runs alone leaves the others alone. -/
theorem others_alone {actions : List Action} (run : Steps step (Alone sid) store actions late)
    {other : Nat} (apart : other ≠ sid) : late.sessions other = store.sessions other := by
  have keeps : ∀ (s : Store) (a : Action) (t : Store),
      s.sessions other = store.sessions other → Alone sid s a → s.step a = some t →
      t.sessions other = store.sessions other := by
    intro s a t same own stepped
    have elsewhere : other ≠ a.actor := by
      rw [show a.actor = sid from own]
      exact apart
    exact (others_step stepped elsewhere).trans same
  exact run.invariant keeps rfl

/-- From some number on, no session has been opened. -/
def Idle (store : Store) : Prop :=
  ∃ bound, ∀ sid, bound ≤ sid → store.sessions sid = none ∧ store.outcomes sid = none

/-- There is always a session that can be opened. -/
theorem Reachable.idle {table : Notifications} (reached : Reachable table store) : store.Idle := by
  have none_ : (start table.rows).Idle := ⟨0, fun sid _ => ⟨rfl, rfl⟩⟩
  refine Reaches.invariant reached ?_ none_
  intro s a t held _ stepped
  obtain ⟨bound, unused⟩ := held
  obtain ⟨acted, -, others⟩ := turn_of_step stepped
  refine ⟨max bound (acted + 1), ?_⟩
  intro sid above
  have apart : sid ≠ acted := by omega
  rw [(others sid apart).1, (others sid apart).2]
  exact unused sid (by omega)

/-- What is asked of a program that only reads and announces. -/
def announcing : Contract Statement Statement.Reply Unit where
  requires statement _ := statement.isWrite = false
  allows _ _ _ _ := True

/-- A session whose program only announces can be run to the end of it. -/
theorem announces_alone {body : Tx Ending} {ending : Ending}
    (announces : Meets announcing (fun reached _ => reached = ending) (fun _ _ => False) body ())
    (found : store.sessions sid = some session) (at_ : session.stage = .ready body) :
    ∃ actions late later, Steps step (Alone sid) store actions late ∧
      late.sessions sid = some later ∧ later.stage = .ready (.done ending) ∧
      later.operation = session.operation := by
  induction body generalizing store session with
  | done reached =>
    obtain rfl : reached = ending := announces
    exact ⟨[], store, session, .refl store, found, at_, rfl⟩
  | fail error => exact announces.elim
  | call statement next ih =>
    have reads : statement.isWrite = false := announces.1
    have stepped : store.step (.advance sid) = some (store.put sid (session.resume statement
        (next (statement.reply (store.rows.filter (store.sees session)) [])))) := by
      simp only [step, found, at_, reads, Bool.false_eq_true, if_false]
    obtain ⟨actions, late, later, run, left, ended, same⟩ :=
      ih (statement.reply (store.rows.filter (store.sees session)) [])
        (announces.2 _ () trivial) (put_sessions_self store sid (session.resume statement _)) rfl
    exact ⟨.advance sid :: actions, late, later, .next rfl stepped run, left, ended, same⟩

/-- A session that runs alone can visit all the targets of its INSERT. -/
theorem visits_alone {statement : Statement} {next : statement.Reply → Tx Ending}
    {snapshot targets : List Row} (sound : Sound initial store)
    (insertion : statement = Operation.insertion nowV7 command)
    (others : ∀ other, other ≠ sid → store.sessions other = none)
    (found : store.sessions sid = some session)
    (at_ : session.stage = .scanning statement next snapshot targets)
    (distinct : (targets.map Row.id).Nodup)
    (unused : ∀ target ∈ targets, store.used target.id = false) :
    ∃ actions late later, Steps step (Alone sid) store actions late ∧
      late.sessions sid = some later ∧ later.stage = .scanning statement next snapshot [] ∧
      later.operation = session.operation := by
  induction targets generalizing store session with
  | nil => exact ⟨[], store, session, .refl store, found, at_, rfl⟩
  | cons target targets ih =>
    have free : store.blocked sid target = false := by
      rw [blocked, List.any_eq_false]
      intro lock member
      have own : lock.1 = sid := by
        by_contra apart
        exact sound.consistent.owned lock member (others lock.1 apart)
      simp [own]
    have new := unused target List.mem_cons_self
    obtain ⟨writes, written, none_⟩ : ∃ writes,
        store.writesAt sid session statement target = some writes ∧
          ∀ write ∈ writes, write.id = target.id := by
      subst insertion
      by_cases conflict : store.conflicts sid target = true
      · refine ⟨[], ?_, by simp⟩
        simp only [Operation.insertion, writesAt, conflict, if_true]
      · refine ⟨[.insert target], ?_, ?_⟩
        · simp only [Operation.insertion, writesAt, conflict, new, Bool.false_eq_true, if_false]
        · intro write member
          rw [List.mem_singleton.mp member]
          rfl
    have stepped : store.step (.visit sid 0) = some ((store.lock sid writes).put sid
        { session with stage := .scanning statement next snapshot targets }) := by
      simp only [step, found, at_, List.getElem?_cons_zero, free, written, Bool.false_eq_true,
        if_false, List.eraseIdx_cons_zero]
    have rest : ∀ later ∈ targets, later.id ≠ target.id := by
      rw [List.map_cons, List.nodup_cons] at distinct
      intro later member same
      exact distinct.1 (List.mem_map.mpr ⟨later, member, same⟩)
    have still : ∀ later ∈ targets, ((store.lock sid writes).put sid
        { session with stage := .scanning statement next snapshot targets }).used later.id =
          false := by
      intro later member
      have was := unused later (List.mem_cons_of_mem target member)
      have apart := rest later member
      simp only [used, Bool.or_eq_false_iff, List.any_eq_false, beq_iff_eq] at was ⊢
      refine ⟨was.1, ?_⟩
      intro lock inside
      rcases List.mem_append.mp inside with old | added
      · exact was.2 lock old
      · obtain ⟨write, member, rfl⟩ := List.mem_map.mp added
        rw [none_ write member]
        exact apart.symm
    have alone : ∀ other, other ≠ sid → ((store.lock sid writes).put sid
        { session with stage := .scanning statement next snapshot targets }).sessions other =
          none := by
      intro other apart
      rw [put_sessions_other (store.lock sid writes) apart]
      exact others other apart
    obtain ⟨actions, late, later, run, left, ended, same⟩ := ih (sound_step sound stepped) alone
      (put_sessions_self _ sid _) rfl (List.nodup_cons.mp distinct).2 still
    exact ⟨.visit sid 0 :: actions, late, later, .next rfl stepped run, left, ended, same⟩

/-- What a fan-out does once its INSERT has returned. -/
def afterInsert (rows : List (Uuid × Uuid)) : Tx Ending := do
  let written ← (do signalAll (addedSignals rows); pure (addedSignals rows).length : Tx Nat)
  pure (.commit (.ok (.written written)))

/-- What follows the INSERT announces the rows and returns their number. -/
theorem afterInsert_announces (rows : List (Uuid × Uuid)) :
    Meets announcing
      (fun reached _ => reached = .commit (.ok (.written (addedSignals rows).length)))
      (fun _ _ => False) (afterInsert rows) () := by
  have signals : Meets announcing (fun _ _ => True) (fun _ _ => False)
      (signalAll (addedSignals rows)) () := by
    refine meets_forM (fun _ _ => True) signal _ trivial ?_
    intro chunk rest state _
    exact ⟨rfl, fun _ _ _ => trivial⟩
  refine Meets.bind (Meets.bind (signals.mono ?_ fun _ _ failed => failed))
  intro _ _ _
  rfl

/-- The identifiers that an INSERT proposes are those minted for it. -/
theorem candidates_ids : ((Operation.insertion nowV7 command).candidates now).map Row.id =
    (List.range command.recipientIds.length).map nowV7 := by
  have lengths : ((List.range command.recipientIds.length).map nowV7).length ≤
      command.recipientIds.length := by
    rw [List.length_map, List.length_range]
  refine Eq.trans ?_ (List.map_fst_zip lengths)
  exact List.map_map ..

/-- Distinct minted ids make the proposed rows distinct. -/
theorem candidates_distinct (minted : store.Mints nowV7 command.recipientIds.length) :
    (((Operation.insertion nowV7 command).candidates now).map Row.id).Nodup := by
  rw [candidates_ids]
  refine List.Nodup.map_on ?_ List.nodup_range
  intro i inside j there same
  exact minted.distinct i j (List.mem_range.mp inside) (List.mem_range.mp there) same

/-- New minted ids are not in use in a quiet database. -/
theorem candidates_unused (sound : Sound initial store) (quiet : store.Quiet)
    (minted : store.Mints nowV7 command.recipientIds.length) :
    ∀ target ∈ (Operation.insertion nowV7 command).candidates now,
      store.used target.id = false := by
  intro target member
  have id : target.id ∈ (List.range command.recipientIds.length).map nowV7 := by
    have proposed := List.mem_map_of_mem (f := Row.id) member
    rw [candidates_ids] at proposed
    exact proposed
  obtain ⟨place, inside, same⟩ := List.mem_map.mp id
  have new := minted.new place (List.mem_range.mp inside)
  have held : store.held = [] := by
    rw [List.eq_nil_iff_forall_not_mem]
    intro lock there
    exact sound.consistent.owned lock there (quiet lock.1)
  rw [used, held, List.any_nil, Bool.or_false, List.any_eq_false]
  intro write there equal
  rw [same] at new
  exact new (List.mem_map.mpr ⟨write, there, beq_iff_eq.mp equal⟩)

/-- A session whose INSERT has visited all its targets can be run to its commit. -/
theorem ends_alone {snapshot : List Row} (found : store.sessions sid = some session)
    (at_ : session.stage =
      .scanning (Operation.insertion nowV7 command) afterInsert snapshot []) :
    ∃ actions late after written, Steps step (Alone sid) store actions late ∧
      late.step (.commit sid) = some after ∧ after.sessions sid = none ∧
      (∀ other, other ≠ sid → after.sessions other = late.sessions other) ∧
      after.outcomes sid = some (session.operation, .committed (.ok (.written written))) := by
  have returns : store.step (.finish sid) = some (store.put sid
      (session.resume (Operation.insertion nowV7 command)
        (afterInsert ((Operation.insertion nowV7 command).reply snapshot
          (store.heldBy sid))))) := by
    simp only [step, found, at_]
  generalize (Operation.insertion nowV7 command).reply snapshot (store.heldBy sid) = rows
    at returns
  obtain ⟨actions, late, later, run, left, ended, same⟩ :=
    announces_alone (afterInsert_announces rows) (put_sessions_self store sid
      (session.resume (Operation.insertion nowV7 command) (afterInsert rows))) rfl
  have commits : late.step (.commit sid) = some ((late.publish sid later.queued).close sid
      later.operation (.committed (.ok (.written (addedSignals rows).length)))) := by
    simp only [step, left, ended]
  refine ⟨.finish sid :: actions, late, _, (addedSignals rows).length, .next rfl returns run,
    commits, ?_, ?_, ?_⟩
  · exact Function.update_self ..
  · intro other apart
    exact others_step commits apart
  · refine (Function.update_self ..).trans ?_
    rw [same]
    rfl

/-- In a quiet database, a command whose minted ids are distinct and new can be fanned out, and
the database is quiet again after it. -/
theorem Reachable.fansOut {table : Notifications} (reached : Reachable table store)
    (quiet : store.Quiet) (minted : store.Mints nowV7 command.recipientIds.length)
    (now : DateTime) :
    ∃ written after, store.FansOut nowV7 command now written after ∧ after.Quiet := by
  obtain ⟨sid, idle⟩ := reached.idle
  obtain ⟨closed, unused⟩ := idle sid (Nat.le_refl sid)
  have sound := reached.sound
  let began := Session.start (.fanOut nowV7 command) now
  let opened := store.put sid began
  let scanning : Session :=
    { began with
      stage := .scanning (Operation.insertion nowV7 command) afterInsert
        (opened.rows.filter (opened.sees began))
          ((Operation.insertion nowV7 command).candidates now) }
  have begun : store.step (.begin sid (.fanOut nowV7 command) now) = some opened := by
    simp only [step, closed, unused, Option.isNone_none, Bool.and_self, if_true]
    rfl
  have scans : opened.step (.advance sid) = some (opened.put sid scanning) := by
    have found : opened.sessions sid = some began := put_sessions_self store sid began
    have at_ : began.stage = .ready (.call (Operation.insertion nowV7 command) afterInsert) := rfl
    simp only [step, found, at_]
    rfl
  have alone : ∀ other, other ≠ sid → (opened.put sid scanning).sessions other = none := by
    intro other apart
    rw [put_sessions_other opened apart, put_sessions_other store apart]
    exact quiet other
  have fresh : ∀ target ∈ (Operation.insertion nowV7 command).candidates now,
      store.used target.id = false := candidates_unused sound quiet minted
  -- Its rows are visited, and it returns.
  obtain ⟨visits, visited, session, visiting, found, at_, same⟩ :=
    visits_alone (sound_step (sound_step sound begun) scans) rfl alone
      (put_sessions_self opened sid scanning) rfl (candidates_distinct minted)
      fresh
  obtain ⟨actions, late, after, written, announcing_, committed, over_, others, ended⟩ :=
    ends_alone found at_
  refine ⟨written, after, ⟨sid, opened, .advance sid :: (visits ++ actions), late, begun, ?_,
    committed, ?_⟩, ?_⟩
  · exact .next rfl scans (visiting.append announcing_)
  · rw [ended, same]
    rfl
  · intro other
    by_cases here : other = sid
    · rw [here]
      exact over_
    · rw [others other here, others_alone (visiting.append announcing_) here]
      exact alone other here

/-- A database after a fan-out is reached as well. -/
theorem Reachable.fannedOut {table : Notifications} {written : Nat}
    (reached : Reachable table store)
    (fansOut : store.FansOut nowV7 command now written after) : Reachable table after := by
  obtain ⟨sid, opened, actions, late, begun, run, committed, -⟩ := fansOut
  have goesOn : Reaches step anyStep opened late :=
    ⟨actions, run.weaken fun _ _ _ => trivial⟩
  exact ((Reaches.snoc reached trivial begun).trans goesOn).snoc trivial committed

/-- In every database reached, a fan-out that commits returns the number of rows it writes. -/
theorem Reachable.counts {table : Notifications} (reached : Reachable table store) :
    AllVerified Counts store := by
  have keeps : ∀ (s : Store) (a : Action) (t : Store),
      Sound table.rows s ∧ AllVerified Counts s → anyStep s a → s.step a = some t →
      Sound table.rows t ∧ AllVerified Counts t := by
    intro s a t held _ stepped
    obtain ⟨sound, counted⟩ := held
    exact ⟨sound_step sound stepped,
      verified_step counts_ensures sound.consistent counted stepped⟩
  have begun : AllVerified Counts (start table.rows) := by
    intro sid session found
    contradiction
  exact (Reaches.invariant reached keeps ⟨start_sound table, begun⟩).2

/-- What a fan-out does to a database that is reached. -/
theorem Reachable.inserts {table : Notifications} {written : Nat} (reached : Reachable table store)
    (fansOut : store.FansOut nowV7 command now written after) :
    ∃ inserted, Inserts nowV7 command now store.rows inserted ∧ store.Adds inserted after ∧
      written = inserted.length :=
  reached.sound.fansOut reached.counts fansOut

/-- Fanning out again inserts nothing. -/
theorem Reachable.again {table : Notifications} {written count : Nat} {nowV7' : Nat → Uuid}
    {later : DateTime} {afterwards : Store} (reached : Reachable table store)
    (fansOut : store.FansOut nowV7 command now written after)
    (again : after.FansOut nowV7' command later count afterwards) :
    after.Adds [] afterwards ∧ count = 0 := by
  obtain ⟨inserted, inserts, adds, -⟩ := reached.inserts fansOut
  obtain ⟨others, insertsMore, addsMore, number⟩ := (reached.fannedOut fansOut).inserts again
  have all : ∀ recipientId ∈ command.recipientIds,
      (command.sourceEventId, recipientId) ∈ after.rows.map Row.key := by
    intro recipientId member
    rw [adds.rows]
    exact (inserts.mem_keys recipientId).mpr (Or.inr member)
  have none_ : others = [] := insertsMore.nothing all
  rw [none_] at addsMore number
  exact ⟨addsMore, number⟩

end Store

end SvcNotifier
