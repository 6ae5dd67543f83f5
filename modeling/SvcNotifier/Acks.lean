import SvcNotifier.Transitions

/-!
# What the acks of `notifierMarkAsRead` and `notifierDeleteNotification` say

`mark_as_read` reads a row in the snapshot of its statement and updates the version that is
committed when it comes to the row. Everything but a transition is one outcome: a row that has
been read meanwhile, and a row that has been deleted meanwhile without having been read. A
session that marks is followed through its statements, against whatever the others commit.
-/

namespace SvcNotifier

open Library Program

/-! ## The program of `notifierMarkAsRead` -/

/-- What becomes of a mark, by the reply of its statement. -/
structure Concludes (caller id : Uuid) (next : Option (Option DateTime × Bool) → Tx Ending) :
    Prop where
  /-- No row of the caller answers `NOT_FOUND`. -/
  missing : next none = .done (.rollback .notFound)
  /-- A row that was set is announced, with the `read_at` that was written. -/
  moved : ∀ readAt, next (some (some readAt, true)) =
    .call (.pgNotify [.read caller [id] readAt]) fun _ => .done (.commit (.ok .ack))
  /-- A row that was not set is acked without an announcement. -/
  otherwise : ∀ readAt, next (some (readAt, false)) = .done (.commit (.ok .ack))

/-- The statements of `notifier_mark_as_read`. -/
theorem notifierMarkAsRead_eq (caller id : Uuid) :
    ∃ next, Concludes caller id next ∧ notifierMarkAsRead caller id =
      .call (.setConfig caller) fun _ => .call (.markRead id caller) next := by
  refine ⟨_, ⟨?_, ?_, ?_⟩, rfl⟩
  · rfl
  · intro readAt
    rfl
  · intro readAt
    cases readAt with
    | none => rfl
    | some readAt => rfl

namespace Store

variable {store after : Store} {initial : List Row} {sid : Nat} {session : Session}
  {caller id : Uuid}

/-! ## A session that marks a notification -/

/-- The session has set the `read_at` of the caller's notification. -/
def Marks (store : Store) (sid : Nat) (caller id : Uuid) : Prop :=
  ∃ row readAt, .setRead row readAt ∈ store.heldBy sid ∧ row.id = id ∧ row.recipientId = caller

/-- The notification has been removed, and had never been read. -/
def RemovedUnread (store : Store) (id : Uuid) : Prop :=
  id ∈ store.history.map Write.id ∧ id ∉ store.rows.map Row.id ∧ ¬ store.EverRead id

/-- The step does not remove an unread row that a mark has in its snapshot and has yet to
visit. -/
def Spares (store : Store) (action : Action) : Prop :=
  ∀ deleter row sid session caller next snapshot targets, action = .commit deleter →
    .delete row ∈ store.heldBy deleter → row.readAt = none →
    store.sessions sid = some session →
    session.stage = .scanning (.markRead row.id caller) next snapshot targets → targets = []

/-- What a mark knows of its row while its statement runs. -/
structure Scans (store : Store) (sid : Nat) (caller id : Uuid) (snapshot targets : List Row) :
    Prop where
  /-- The id of the row that was found has been used by a committed write. -/
  used : ∀ row, anchorRow snapshot caller id = some row → id ∈ store.history.map Write.id
  /-- Whatever row has that id is the caller's. -/
  owner : ∀ row, anchorRow snapshot caller id = some row →
    ∀ current ∈ store.rows, current.id = id → current.recipientId = caller
  /-- Until it has set the `read_at`, the row has been read, or is there and still to be
  visited. -/
  waits : ∀ row, anchorRow snapshot caller id = some row → store.heldBy sid = [] →
    store.EverRead id ∨ targets ≠ [] ∧ id ∈ store.rows.map Row.id

/-- How far a session that marks a notification has come. -/
inductive Marking (store : Store) (sid : Nat) (session : Session) (caller id : Uuid) : Prop where
  /-- It is about to name the caller. -/
  | opening {next : Option (Option DateTime × Bool) → Tx Ending}
      (concludes : Concludes caller id next)
      (at_ : session.stage = .ready
        (.call (.setConfig caller) fun _ => .call (.markRead id caller) next))
  /-- It has named the caller and is about to update the row. -/
  | asking {next : Option (Option DateTime × Bool) → Tx Ending}
      (concludes : Concludes caller id next) (acts : session.currentUser = some caller)
      (at_ : session.stage = .ready (.call (.markRead id caller) next))
  /-- Its UPDATE has taken its snapshot. -/
  | scanning {next : Option (Option DateTime × Bool) → Tx Ending} {snapshot targets : List Row}
      (concludes : Concludes caller id next) (acts : session.currentUser = some caller)
      (at_ : session.stage = .scanning (.markRead id caller) next snapshot targets)
      (scans : store.Scans sid caller id snapshot targets)
  /-- It has set the `read_at` and is about to announce it. -/
  | signalling {readAt : DateTime} (marks : store.Marks sid caller id)
      (at_ : session.stage = .ready (.call (.pgNotify [.read caller [id] readAt])
        fun _ => .done (.commit (.ok .ack))))
  /-- It is about to commit the ack. -/
  | acking (truth : store.Marks sid caller id ∨ store.EverRead id)
      (at_ : session.stage = .ready (.done (.commit (.ok .ack))))
  /-- It is about to roll back with `NOT_FOUND`. -/
  | refusing (at_ : session.stage = .ready (.done (.rollback .notFound)))

/-- What a session has marked stays marked while it keeps its locks. -/
theorem Marks.mono (marks : store.Marks sid caller id)
    (held : store.heldBy sid ⊆ after.heldBy sid) : after.Marks sid caller id := by
  obtain ⟨row, readAt, member, same, owner⟩ := marks
  exact ⟨row, readAt, held member, same, owner⟩

/-- A mark that waits, over a step of anybody that spares its row. -/
theorem Scans.step {action : Action} {next : Option (Option DateTime × Bool) → Tx Ending}
    {snapshot targets : List Row} (scans : store.Scans sid caller id snapshot targets)
    (sound : Sound initial store) (witnessed : store.Witnessed) (spares : store.Spares action)
    (stepped : store.step action = some after) (found : store.sessions sid = some session)
    (at_ : session.stage = .scanning (.markRead id caller) next snapshot targets)
    (held : store.heldBy sid ⊆ after.heldBy sid) :
    after.Scans sid caller id snapshot targets := by
  have grown := (history_grows stepped).subset
  have follows := sound.follows_step stepped
  refine ⟨?_, ?_, ?_⟩
  · intro row isRow
    have used := scans.used row isRow
    obtain ⟨write, member, onRow⟩ := List.mem_map.mp used
    exact onRow ▸ List.mem_map_of_mem (grown member)
  · intro row isRow current there same
    have before : id ∈ store.rows.map Row.id := by
      by_contra absent
      have gone := follows.gone id (scans.used row isRow) absent
      exact gone (same ▸ List.mem_map_of_mem there)
    obtain ⟨old, was, onOld⟩ := List.mem_map.mp before
    have evolved := follows.evolves old was current there (same.trans onOld.symm)
    have owner := scans.owner row isRow old was onOld
    rw [evolved.1]
    exact owner
  · intro row isRow clean
    have wasClean : store.heldBy sid = [] := by
      rw [clean] at held
      exact List.subset_nil.mp held
    rcases scans.waits row isRow wasClean with read | ⟨waiting, present⟩
    · exact Or.inl (read.mono grown)
    · by_cases stays : id ∈ after.rows.map Row.id
      · exact Or.inr ⟨waiting, stays⟩
      · obtain ⟨old, was, onOld⟩ := List.mem_map.mp present
        rw [← onOld] at stays
        obtain ⟨deleter, isCommit, deletes⟩ := deleted_of_absent sound stepped was stays
        -- The row that was removed had been read, for the step spares unread ones.
        have read : old.readAt ≠ none := by
          intro unread
          rw [← onOld] at at_
          exact waiting (spares deleter old sid session caller next snapshot targets isCommit
            deletes unread found at_)
        have ever := witnessed.everRead was read
        rw [onOld] at ever
        exact Or.inl (ever.mono grown)

/-- Another session's step leaves a mark where it was. -/
theorem Marking.aside {action : Action} (marking : store.Marking sid session caller id)
    (sound : Sound initial store) (witnessed : store.Witnessed) (spares : store.Spares action)
    (stepped : store.step action = some after) (found : store.sessions sid = some session)
    (held : store.heldBy sid ⊆ after.heldBy sid) : after.Marking sid session caller id := by
  have grown := (history_grows stepped).subset
  cases marking with
  | opening concludes at_ => exact .opening concludes at_
  | asking concludes acts at_ => exact .asking concludes acts at_
  | scanning concludes acts at_ scans =>
    exact .scanning concludes acts at_
      (scans.step sound witnessed spares stepped found at_ held)
  | signalling marks at_ => exact .signalling (marks.mono held) at_
  | acking truth at_ =>
    refine .acking ?_ at_
    rcases truth with marks | read
    · exact Or.inl (marks.mono held)
    · exact Or.inr (read.mono grown)
  | refusing at_ => exact .refusing at_

/-- Replacing a session changes nothing that a mark knows. -/
theorem Marking.put (marking : store.Marking sid session caller id) (other : Nat)
    (later : Session) : (store.put other later).Marking sid session caller id := by
  cases marking with
  | opening concludes at_ => exact .opening concludes at_
  | asking concludes acts at_ => exact .asking concludes acts at_
  | scanning concludes acts at_ scans =>
    exact .scanning concludes acts at_ ⟨scans.used, scans.owner, scans.waits⟩
  | signalling marks at_ => exact .signalling marks at_
  | acking truth at_ => exact .acking truth at_
  | refusing at_ => exact .refusing at_

/-- What the statement of a mark finds in its snapshot. -/
theorem scans_of_snapshot (sound : Sound initial store) (witnessed : store.Witnessed)
    (sees : Row → Bool) (now : DateTime) :
    store.Scans sid caller id (store.rows.filter sees)
      ((Statement.markRead id caller).targets now (store.rows.filter sees)) := by
  refine ⟨?_, ?_, ?_⟩
  · intro row isRow
    obtain ⟨member, same, -⟩ := anchorRow_some isRow
    exact same ▸ sound.consistent.known (List.mem_filter.mp member).1
  · intro row isRow current there same
    obtain ⟨member, onRow, owner⟩ := anchorRow_some isRow
    have one : current = row := sound.consistent.unique.eq_of_id there
      (List.mem_filter.mp member).1 (same.trans onRow.symm)
    rw [one]
    exact owner
  · intro row isRow _
    obtain ⟨member, onRow, owner⟩ := anchorRow_some isRow
    have there := (List.mem_filter.mp member).1
    by_cases read : row.readAt = none
    · right
      have aimed : row ∈
          (store.rows.filter sees).filter (Statement.markRead id caller).selects := by
        rw [List.mem_filter]
        refine ⟨member, ?_⟩
        simp only [Statement.selects, onRow, owner, read, beq_self_eq_true, Option.isNone_none,
          Bool.and_self]
      exact ⟨List.ne_nil_of_mem aimed, onRow ▸ List.mem_map_of_mem there⟩
    · exact Or.inl (onRow ▸ witnessed.everRead there read)

/-- A visit that writes nothing has come to a row that had been read. -/
theorem Scans.visit {snapshot targets rest : List Row} {target : Row} {writes : List Write}
    (scans : store.Scans sid caller id snapshot targets) (witnessed : store.Witnessed)
    (isTarget : target.id = id) (acts : session.currentUser = some caller)
    (policy : store.policies session.operation = notificationsAppScope)
    (written : store.writesAt sid session (.markRead id caller) target = some writes) :
    (store.lock sid writes).Scans sid caller id snapshot rest := by
  refine ⟨scans.used, scans.owner, ?_⟩
  intro row isRow clean
  rw [heldBy_lock_self] at clean
  obtain ⟨none_, nothing⟩ := List.append_eq_nil_iff.mp clean
  rcases scans.waits row isRow none_ with read | ⟨-, present⟩
  · exact Or.inl read
  · left
    obtain ⟨current, there, onCurrent⟩ := List.mem_map.mp present
    have found : (store.rows.find? fun row => row.id == target.id).isSome = true := by
      rw [List.find?_isSome]
      exact ⟨current, there, beq_iff_eq.mpr (onCurrent.trans isTarget.symm)⟩
    obtain ⟨version, isVersion⟩ := Option.isSome_iff_exists.mp found
    have member := List.mem_of_find?_eq_some isVersion
    have onTarget : (version.id == target.id) = true :=
      List.find?_some (p := fun row : Row => row.id == target.id) isVersion
    have onVersion : version.id = id := (beq_iff_eq.mp onTarget).trans isTarget
    have owner := scans.owner row isRow version member onVersion
    have visible : store.sees session version = true := by
      rw [sees, policy, acts, ← owner]
      exact beq_self_eq_true _
    -- The caller sees the row and owns it, so only its `read_at` can have kept it from a write.
    have read : version.readAt ≠ none := by
      intro unread
      have selected : (Statement.markRead id caller).selects version = true := by
        simp only [Statement.selects, onVersion, owner, unread, beq_self_eq_true,
          Option.isNone_none, Bool.and_self]
      have wrote : store.writesAt sid session (.markRead id caller) target =
          some [.setRead version session.now.timestamptz] := by
        simp only [writesAt, isVersion, none_, List.any_nil, visible, selected, Bool.and_self,
          if_true, Statement.write]
        rfl
      rw [wrote] at written
      have grew := Option.some.inj written
      rw [nothing] at grew
      contradiction
    exact onVersion ▸ witnessed.everRead member read

/-- What a mark's statement returns, once it has visited its row. -/
theorem marking_of_reply {next : Option (Option DateTime × Bool) → Tx Ending}
    {snapshot : List Row} {later : Session} (concludes : Concludes caller id next)
    (scans : store.Scans sid caller id snapshot [])
    (permitted : ∀ write ∈ store.heldBy sid,
      (Statement.markRead id caller).Permits session.now write)
    (distinct : ((store.heldBy sid).map Write.id).Nodup)
    (at_ : later.stage = .ready (next ((Statement.markRead id caller).reply snapshot
      (store.heldBy sid)))) : store.Marking sid later caller id := by
  have makes : (Statement.markRead id caller).Makes session.now (store.heldBy sid) :=
    ⟨permitted, distinct⟩
  have facts := makes.markRead_fact
  cases found : anchorRow snapshot caller id with
  | none =>
    rw [Statement.reply, found, Option.map_none, concludes.missing] at at_
    exact .refusing at_
  | some before =>
    obtain ⟨-, named, -⟩ := anchorRow_some found
    rcases writes_of_one_id distinct (fun write member => (facts write member).1) with
      none_ | ⟨write, one⟩
    · rw [Statement.reply, found, none_] at at_
      have ended : later.stage = .ready (.done (.commit (.ok .ack))) := by
        rw [at_]
        exact congrArg Stage.ready (concludes.otherwise before.readAt)
      rcases scans.waits before found none_ with read | ⟨waiting, -⟩
      · exact .acking (Or.inr read) ended
      · exact absurd rfl waiting
    · have member : write ∈ store.heldBy sid := by
        rw [one]
        exact List.mem_cons_self
      obtain ⟨row, selected, isWrite⟩ := permitted write member
      rw [Statement.selects, Bool.and_eq_true, Bool.and_eq_true, beq_iff_eq, beq_iff_eq] at selected
      have isRead : write = .setRead row session.now.timestamptz := isWrite
      have marks : store.Marks sid caller id :=
        ⟨row, session.now.timestamptz, isRead ▸ member, selected.1.1, selected.1.2⟩
      rw [Statement.reply, found, one] at at_
      have sameId : (write.id == before.id) = true := by
        rw [(facts write member).1, named]
        exact beq_self_eq_true id
      have setAt := (facts write member).2.1
      simp only [Option.map_some, List.find?_cons, sameId, Option.bind_some, setAt, Option.some_or,
        Option.isSome_some] at at_
      rw [concludes.moved] at at_
      exact .signalling marks at_

/-- Every session that marks a notification. -/
def AllMarking (store : Store) : Prop :=
  ∀ sid session caller id, store.sessions sid = some session →
    session.operation = .markAsRead caller id → store.Marking sid session caller id

/-- Every step that spares unread rows leaves every mark where it may be. -/
theorem allMarking_step {action : Action} (sound : Sound initial store)
    (witnessed : store.Witnessed) (policy : store.policies = Operation.policy)
    (marking : store.AllMarking) (spares : store.Spares action)
    (stepped : store.step action = some after) : after.AllMarking := by
  intro sid session caller id found marks
  by_cases kept : after.sessions sid = store.sessions sid
  · rw [kept] at found
    have opened : store.sessions sid ≠ none := by
      rw [found]
      exact Option.some_ne_none session
    exact (marking sid session caller id found marks).aside sound witnessed spares stepped found
      (heldBy_of_other stepped kept opened)
  -- The session took the step itself.
  cases moves_of_step stepped with
  | @begin acted operation now idle unused =>
    obtain ⟨rfl, rfl⟩ := acted_of_changed kept found
    have isMark : operation = .markAsRead caller id := marks
    obtain ⟨next, concludes, program⟩ := notifierMarkAsRead_eq caller id
    refine .opening concludes ?_
    rw [Session.start, isMark]
    exact congrArg Stage.ready program
  | @reply acted before statement next was at_ reads =>
    obtain ⟨rfl, rfl⟩ := acted_of_changed kept found
    cases marking sid before caller id was marks with
    | opening concludes isAt =>
      cases isAt.symm.trans at_
      exact .asking concludes rfl rfl
    | asking concludes acts isAt =>
      cases isAt.symm.trans at_
      contradiction
    | scanning concludes acts isAt scans => cases isAt.symm.trans at_
    | signalling moved isAt =>
      cases isAt.symm.trans at_
      exact .acking (Or.inl moved) rfl
    | acking truth isAt => cases isAt.symm.trans at_
    | refusing isAt => cases isAt.symm.trans at_
  | @scan acted before statement next was at_ writes =>
    obtain ⟨rfl, rfl⟩ := acted_of_changed kept found
    cases marking sid before caller id was marks with
    | opening concludes isAt =>
      cases isAt.symm.trans at_
      contradiction
    | asking concludes acts isAt =>
      cases isAt.symm.trans at_
      refine Marking.put ?_ sid _
      exact .scanning concludes acts rfl
        (scans_of_snapshot sound witnessed (store.sees before) before.now)
    | scanning concludes acts isAt scans => cases isAt.symm.trans at_
    | signalling moved isAt =>
      cases isAt.symm.trans at_
      contradiction
    | acking truth isAt => cases isAt.symm.trans at_
    | refusing isAt => cases isAt.symm.trans at_
  | @visit acted index before statement next snapshot targets target writes was at_ aimed free
      written =>
    obtain ⟨rfl, rfl⟩ := acted_of_changed kept found
    have owes := sound.verified sid before was
    cases marking sid before caller id was marks with
    | scanning concludes acts isAt scans =>
      cases isAt.symm.trans at_
      rw [Verified, at_] at owes
      have isTarget : target.id = id := by
        have selected :=
          (owes.2.2.1 target (List.mem_of_getElem? aimed)).resolve_left List.not_mem_nil
        rw [Statement.selects, Bool.and_eq_true, Bool.and_eq_true, beq_iff_eq] at selected
        exact selected.1.1
      have scoped_ : store.policies before.operation = notificationsAppScope := by
        have isMark : before.operation = .markAsRead caller id := marks
        rw [policy, isMark]
        rfl
      refine Marking.put ?_ sid _
      exact .scanning concludes acts rfl
        (scans.visit witnessed isTarget acts scoped_ written)
    | opening concludes isAt => cases isAt.symm.trans at_
    | asking concludes acts isAt => cases isAt.symm.trans at_
    | signalling moved isAt => cases isAt.symm.trans at_
    | acking truth isAt => cases isAt.symm.trans at_
    | refusing isAt => cases isAt.symm.trans at_
  | @finish acted before statement next snapshot was at_ =>
    obtain ⟨rfl, rfl⟩ := acted_of_changed kept found
    have owes := sound.verified sid before was
    cases marking sid before caller id was marks with
    | scanning concludes acts isAt scans =>
      cases isAt.symm.trans at_
      rw [Verified, at_] at owes
      exact (marking_of_reply concludes scans owes.2.1
        (sound.consistent.lawful sid).ids rfl).put sid _
    | opening concludes isAt => cases isAt.symm.trans at_
    | asking concludes acts isAt => cases isAt.symm.trans at_
    | signalling moved isAt => cases isAt.symm.trans at_
    | acking truth isAt => cases isAt.symm.trans at_
    | refusing isAt => cases isAt.symm.trans at_
  | @commit acted before answer was at_ =>
    by_cases same : sid = acted
    · simp [close, same] at found
    · exact absurd (Function.update_of_ne same _ _) kept
  | @rollback acted before was =>
    by_cases same : sid = acted
    · simp [close, same] at found
    · exact absurd (Function.update_of_ne same _ _) kept

/-! ## The end of a mark -/

/-- How a mark ends: with an ack that is true, or with `NOT_FOUND`, and with `NOT_FOUND` where
the row has been removed unread. -/
structure TruthfulMark (store : Store) (sid : Nat) (session : Session) (caller id : Uuid)
    (ending : Ending) : Prop where
  /-- Its own transaction has set the `read_at`, which it announces, or an earlier one has. -/
  truth : ending = .commit (.ok .ack) →
    (store.Marks sid caller id ∧
      ⟨.read, caller, id⟩ ∈ session.queued.flatMap NotificationSignal.facts) ∨
    (store.EverRead id ∧ store.heldBy sid = [] ∧ session.queued = [])
  /-- It ends in one of two ways. -/
  ends : ending = .commit (.ok .ack) ∨ ending = .rollback .notFound
  /-- Where the row has been removed unread, it ends with `NOT_FOUND`. -/
  removed : store.RemovedUnread id → ending = .rollback .notFound

/-- What a session marks is a row that is in the table. -/
theorem Marks.present (marks : store.Marks sid caller id) (consistent : store.Consistent) :
    id ∈ store.rows.map Row.id := by
  obtain ⟨row, readAt, member, same, -⟩ := marks
  exact same ▸ List.mem_map_of_mem ((consistent.lawful sid).reads row readAt member).1

/-- A mark that has come to its end is truthful. -/
theorem Marking.truthful {ending : Ending} (marking : store.Marking sid session caller id)
    (sound : Sound initial store) (found : store.sessions sid = some session)
    (isMark : session.operation = .markAsRead caller id)
    (ended : session.stage = .ready (.done ending)) :
    store.TruthfulMark sid session caller id ending := by
  cases marking with
  | acking truth at_ =>
    cases at_.symm.trans ended
    have settled := (sound.verified.at_commit found at_).1
    refine ⟨?_, Or.inl rfl, ?_⟩
    · intro _
      cases held : store.heldBy sid with
      | nil =>
        have quiet : session.queued = [] := by
          have announces := settled.announces
          rw [held] at announces
          exact announces.silent
        rcases truth with ⟨row, readAt, member, -⟩ | read
        · rw [held] at member
          contradiction
        · exact Or.inr ⟨read, rfl, quiet⟩
      | cons write rest =>
        left
        have member : write ∈ store.heldBy sid := by
          rw [held]
          exact List.mem_cons_self
        obtain ⟨statement, isStatement, permitted⟩ := settled.made write member
        rw [isMark] at isStatement
        obtain rfl := Option.some.inj isStatement
        obtain ⟨row, selected, isWrite⟩ := permitted
        rw [Statement.selects, Bool.and_eq_true, Bool.and_eq_true, beq_iff_eq, beq_iff_eq]
          at selected
        have isRead : write = .setRead row session.now.timestamptz := isWrite
        refine ⟨⟨row, _, isRead ▸ member, selected.1.1, selected.1.2⟩, ?_⟩
        rw [settled.announces.facts]
        have fact : write.fact = ⟨.read, caller, id⟩ := by
          rw [isRead, ← selected.1.1, ← selected.1.2]
          rfl
        exact fact ▸ List.mem_map_of_mem member
    · rintro ⟨-, absent, never⟩
      rcases truth with marks | read
      · exact absurd (marks.present sound.consistent) absent
      · exact absurd read never
  | refusing at_ =>
    cases at_.symm.trans ended
    refine ⟨?_, Or.inr rfl, fun _ => rfl⟩
    intro acked
    contradiction
  | opening concludes at_ => cases at_.symm.trans ended
  | asking concludes acts at_ => cases at_.symm.trans ended
  | scanning concludes acts at_ scans => cases at_.symm.trans ended
  | signalling marks at_ => cases at_.symm.trans ended

/-! ## Deletes -/

/-- A delete of one notification that commits has removed the caller's row. -/
def Removes (_ : DateTime) (operation : Operation) (ending : Ending) (after : Progress) : Prop :=
  ∀ caller id answer, operation = .deleteNotification caller id → ending = .commit answer →
    ∃ row, .delete row ∈ after.writes ∧ row.id = id ∧ row.recipientId = caller

/-- Every operation ensures it. -/
theorem removes_ensures (now : DateTime) (operation : Operation) :
    Ensures (txContract now) (Removes now operation) operation.body Progress.start := by
  cases operation with
  | deleteNotification caller id =>
    have clean : Progress.Clean { Progress.start with executed := [.setConfig caller] } :=
      ⟨rfl, rfl⟩
    refine scoped_ensures caller _ (Ensures.bind
      ((deleteNotifications_ensures caller [id] clean).mono ?_))
    rintro deleted after ⟨announced, isDeleted⟩
    split
    · intro _ _ _ _ ended
      contradiction
    · rename_i some_
      rintro _ _ answer ⟨⟩ -
      cases written : after.writes with
      | nil =>
        rw [isDeleted, written] at some_
        contradiction
      | cons write rest =>
        have member : write ∈ after.writes := by
          rw [written]
          exact List.mem_cons_self
        obtain ⟨statement, isStatement, permitted⟩ := announced.made write member
        obtain rfl := Option.some.inj isStatement
        obtain ⟨row, selected, isWrite⟩ := permitted
        simp only [Statement.selects, List.contains_cons, List.contains_nil, Bool.or_false,
          Bool.and_eq_true, beq_iff_eq] at selected
        have isDelete : write = .delete row := isWrite
        exact ⟨row, written ▸ isDelete ▸ member, selected.1, selected.2⟩
  | _ =>
    refine (operation_ensures now _).mono ?_
    rintro ending after - _ _ _ ⟨⟩

/-- What holds in every state of a run that spares unread rows. -/
structure Acking (initial : List Row) (store : Store) : Prop where
  /-- The database is sound. -/
  sound : Sound initial store
  /-- What is committed to be read has its witness. -/
  witnessed : store.Witnessed
  /-- The policies are those of the service. -/
  policy : store.policies = Operation.policy
  /-- Every session that marks a notification is at one of its stages. -/
  marking : store.AllMarking
  /-- Every session that deletes knows what it removes. -/
  removes : AllVerified Removes store

/-- A database just started. -/
theorem start_acking (table : Notifications) : Acking table.rows (start table.rows) where
  sound := start_sound table
  witnessed := start_witnessed table.rows
  policy := rfl
  marking := by
    intro sid session caller id found
    contradiction
  removes := by
    intro sid session found
    contradiction

/-- Every step that spares unread rows keeps it. -/
theorem acking_step {action : Action} (acking : Acking initial store)
    (spares : store.Spares action) (stepped : store.step action = some after) :
    Acking initial after where
  sound := sound_step acking.sound stepped
  witnessed := witnessed_step acking.sound acking.witnessed stepped
  policy := (policies_kept stepped).trans acking.policy
  marking := allMarking_step acking.sound acking.witnessed acking.policy acking.marking spares
    stepped
  removes := verified_step removes_ensures acking.sound.consistent acking.removes stepped

end Store

/-- Acks tell the truth in every run in which no commit removes an unread row that a mark has in
its snapshot and has yet to visit. A mark is acked only where its own transaction has set the
`read_at`, which it announces, or an earlier one has, and it answers `NOT_FOUND` where the row
has been removed unread. Each transition is reported at most once by all the transactions that
have committed. A delete is acked only where its own transaction has removed the row. -/
theorem acks_tell_the_truth (table : Notifications) (store : Store)
    (reached : Reaches Store.step Store.Spares (Store.start table.rows) store) :
    (∀ sid session caller id ending, store.sessions sid = some session →
      session.operation = .markAsRead caller id → session.stage = .ready (.done ending) →
      store.TruthfulMark sid session caller id ending) ∧
    (∀ id, store.reports id ≤ 1) ∧
    ∀ sid session caller id answer, store.sessions sid = some session →
      session.operation = .deleteNotification caller id →
      session.stage = .ready (.done (.commit answer)) →
      ∃ row, .delete row ∈ store.heldBy sid ∧ row.id = id ∧ row.recipientId = caller := by
  have acking : Store.Acking table.rows store :=
    reached.invariant (fun _ _ _ acking spares stepped => Store.acking_step acking spares stepped)
      (Store.start_acking table)
  refine ⟨?_, ?_, ?_⟩
  · intro sid session caller id ending found isMark ended
    exact (acking.marking sid session caller id found isMark).truthful acking.sound found isMark
      ended
  · exact acking.witnessed.reports acking.sound
  · intro sid session caller id answer found isDelete ended
    exact acking.removes.at_commit found ended caller id answer isDelete rfl

/-- The step commits the removal of read rows only. -/
def removesRead (store : Store) : Store.Action → Bool
  | .commit sid => (store.heldBy sid).all fun write => match write with
    | .delete row => row.readAt.isSome
    | _ => true
  | _ => true

/-- A step that commits the removal of read rows only spares the unread ones. -/
theorem spares_of_removesRead (store : Store) (action : Store.Action)
    (checked : removesRead store action = true) : store.Spares action := by
  rintro deleter row sid session caller next snapshot targets rfl removed unread
  have read : row.readAt.isSome = true := List.all_eq_true.mp checked _ removed
  rw [unread] at read
  contradiction

/-- Two sessions are to mark the notification. When both have it in their snapshots, the first
marks it and commits, and a third session removes the read row; the second finds it gone. -/
def sampleMarks : List Store.Action :=
  [.begin 0 (.markAsRead (sampleId 2) (sampleId 7)) ⟨9000⟩, .advance 0, .advance 0,
    .begin 1 (.markAsRead (sampleId 2) (sampleId 7)) ⟨9500⟩, .advance 1, .advance 1,
    .visit 0 0, .finish 0, .advance 0, .commit 0,
    .begin 2 (.deleteNotification (sampleId 2) (sampleId 7)) ⟨9700⟩, .advance 2, .advance 2,
    .visit 2 0, .finish 2, .advance 2, .commit 2, .visit 1 0, .finish 1]

/-- The database when the second mark is about to commit. -/
def sampleMarked : Store :=
  (play Store.step (Store.start sampleUnread.rows) sampleMarks).get (by decide)

/-- The second mark is acked, as the first has read the row; one transition is reported. -/
theorem acks_tell_the_truth_sample :
    (∃ session, sampleMarked.sessions 1 = some session ∧
      sampleMarked.TruthfulMark 1 session (sampleId 2) (sampleId 7) (.commit (.ok .ack))) ∧
    sampleMarked.rows = [] ∧ sampleMarked.reports (sampleId 7) ≤ 1 := by
  have played : play (fun store action => if removesRead store action then store.step action
      else none) (Store.start sampleUnread.rows) sampleMarks = some sampleMarked := rfl
  obtain ⟨marks, reports, -⟩ := acks_tell_the_truth sampleUnread sampleMarked
    ⟨_, steps_of_checked_play played spares_of_removesRead⟩
  exact ⟨⟨_, rfl, marks 1 _ _ _ _ rfl rfl rfl⟩, rfl, reports _⟩

/-- Two sessions of the recipient: one marks the notification as read, and once it has taken
its snapshot the other deletes the notification. -/
def sampleDeletedWhileMarked : List Store.Action :=
  [.begin 0 (.markAsRead (sampleId 2) (sampleId 7)) ⟨9000⟩, .advance 0, .advance 0,
    .begin 1 (.deleteNotification (sampleId 2) (sampleId 7)) ⟨9000⟩, .advance 1, .advance 1,
    .visit 1 0, .finish 1, .advance 1, .commit 1, .visit 0 0, .finish 0]

/-- The database when the mark of the deleted row is about to commit. -/
def sampleAckedInVain : Store :=
  (play Store.step (Store.start sampleUnread.rows) sampleDeletedWhileMarked).get (by decide)

/-- A mark whose row is deleted unread after its snapshot is acked. -/
theorem deleted_unread_is_acked :
    ¬ ∀ store, Store.Reachable sampleUnread store →
      ∀ sid session caller id ending, store.sessions sid = some session →
        session.operation = .markAsRead caller id → session.stage = .ready (.done ending) →
        store.TruthfulMark sid session caller id ending := by
  intro always
  have reached : Store.Reachable sampleUnread sampleAckedInVain :=
    reaches_of_play (Option.some_get _).symm
  have truthful := always sampleAckedInVain reached 0 _ (sampleId 2) (sampleId 7)
    (.commit (.ok .ack)) rfl rfl rfl
  rcases truthful.truth rfl with ⟨⟨row, readAt, held, -⟩, -⟩ |
    ⟨⟨write, written, version, left, -, read⟩, -⟩
  · have nothing : (sampleAckedInVain.heldBy 0).length = 0 := by decide
    rw [List.length_eq_zero_iff.mp nothing] at held
    contradiction
  · have never : (sampleAckedInVain.history.all fun write =>
        (write.version.bind Row.readAt).isNone) = true := by decide
    have unread := List.all_eq_true.mp never write written
    rw [left] at unread
    exact read (Option.isNone_iff_eq_none.mp unread)

end SvcNotifier
