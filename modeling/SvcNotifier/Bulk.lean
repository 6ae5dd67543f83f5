import SvcNotifier.Journal
import SvcNotifier.Transitions
import SvcNotifier.Writers

/-!
# What a mutation leaves behind

A mutation's statement reads one snapshot and then visits the rows it found there one by one,
while other sessions change them. Nothing it was asked about escapes it all the same: once it
has committed, whatever its WHERE still selects is a notification that was committed after the
statement started, or has come since.
-/

namespace SvcNotifier

open Library Program

/-- A row that a statement does not select is never selected again. -/
theorem Evolves.selects {statement : Statement} {row later : Row} (evolves : Evolves row later)
    (selected : statement.selects later = true) : statement.selects row = true := by
  obtain ⟨content, settled⟩ := evolves
  have unread : later.readAt.isNone = true → row.readAt.isNone = true := by
    intro none_
    by_contra read
    have kept := settled (by simpa using read)
    rw [kept] at none_
    exact read none_
  rw [content] at selected
  cases statement with
  | markRead id recipientId =>
    simp only [Statement.selects, Bool.and_eq_true] at selected ⊢
    exact ⟨selected.1, unread selected.2⟩
  | markAllRead readAt recipientId =>
    simp only [Statement.selects, Bool.and_eq_true] at selected ⊢
    exact ⟨unread selected.1, selected.2⟩
  | delete ids recipientId => exact selected
  | _ => contradiction

/-- What a statement writes on a row, it does not select any more. -/
theorem Statement.Permits.spent {statement : Statement} {now : DateTime} {write : Write}
    {version : Row} (permits : statement.Permits now write)
    (left : write.version = some version) : statement.selects version = false := by
  cases statement with
  | markRead id recipientId =>
    obtain ⟨row, -, rfl⟩ := permits
    obtain rfl := Option.some.inj left
    simp [Statement.selects]
  | markAllRead readAt recipientId =>
    obtain ⟨row, -, rfl⟩ := permits
    obtain rfl := Option.some.inj left
    simp [Statement.selects]
  | delete ids recipientId =>
    obtain ⟨row, -, rfl⟩ := permits
    contradiction
  | _ => rfl

/-- The statement of an operation writes. -/
theorem Operation.isWrite_of_writing {operation : Operation} {statement : Statement}
    (own : operation.writing = some statement) : statement.isWrite = true := by
  cases operation with
  | notifications caller first cursor => contradiction
  | unreadCount caller => contradiction
  | _ =>
    obtain rfl := Option.some.inj own
    rfl

namespace Store

variable {store after later : Store} {initial : List Row} {sid : Nat} {session : Session}
  {statement : Statement} {id : Uuid}

/-! ## A notification that a statement is done with -/

/-- The notification has been there, and is gone or no longer selected. -/
structure Cleared (store : Store) (statement : Statement) (id : Uuid) : Prop where
  /-- A committed write has used its id. -/
  used : id ∈ store.history.map Write.id
  /-- A row that has it now is not selected. -/
  unselected : ∀ current ∈ store.rows, current.id = id → statement.selects current = false

/-- What is cleared stays so. -/
theorem Cleared.step {action : Action} (cleared : store.Cleared statement id)
    (sound : Sound initial store) (stepped : store.step action = some after) :
    after.Cleared statement id where
  used := List.map_subset _ (history_grows stepped).subset cleared.used
  unselected := by
    have follows := sound.follows_step stepped
    intro current there same
    have before : id ∈ store.rows.map Row.id := by
      by_contra absent
      exact follows.gone id cleared.used absent (same ▸ List.mem_map_of_mem there)
    obtain ⟨old, was, onOld⟩ := List.mem_map.mp before
    have evolves := follows.evolves old was current there (same.trans onOld.symm)
    have unselected := cleared.unselected old was onOld
    by_contra selected
    rw [evolves.selects (Bool.eq_true_of_not_eq_false selected)] at unselected
    contradiction

/-- The session holds a write on the notification, or it is cleared. -/
def Swept (store : Store) (sid : Nat) (statement : Statement) (id : Uuid) : Prop :=
  id ∈ (store.heldBy sid).map Write.id ∨ store.Cleared statement id

/-- What is swept stays so while the session keeps what it holds. -/
theorem Swept.step {action : Action} (swept : store.Swept sid statement id)
    (sound : Sound initial store) (stepped : store.step action = some after)
    (held : store.heldBy sid ⊆ after.heldBy sid) : after.Swept sid statement id :=
  swept.imp (fun own => List.map_subset _ held own) fun cleared => cleared.step sound stepped

/-- A target that has been visited is swept. -/
theorem swept_of_visit {target : Row} {writes : List Write} (next : Session)
    (sound : Sound initial store) (used : target.id ∈ store.history.map Write.id)
    (sees : ∀ current ∈ store.rows, statement.selects current = true →
      store.sees session current = true)
    (written : store.writesAt sid session statement target = some writes) :
    ((store.lock sid writes).put sid next).Swept sid statement target.id := by
  -- The committed version decides, where there is one.
  have settle : ∀ current ∈ store.rows, current.id = target.id →
      statement.selects current = false →
      ((store.lock sid writes).put sid next).Cleared statement target.id := by
    intro current there same unselected
    refine ⟨used, fun other is onIt => ?_⟩
    rw [sound.consistent.unique.eq_of_id is there (onIt.trans same.symm)]
    exact unselected
  unfold Swept
  rw [heldBy_put, heldBy_lock_self]
  cases statement with
  | insert ids sourceEventId recipientIds template payload link =>
    exact Or.inr ⟨used, fun current _ _ => rfl⟩
  | _ =>
    simp only [writesAt] at written
    split at written
    · rename_i absent
      refine Or.inr ⟨used, fun current there same => ?_⟩
      have found := List.find?_eq_none.mp absent current there
      simp [same] at found
    · rename_i current found
      have there := List.mem_of_find?_eq_some found
      have same : current.id = target.id := by simpa using List.find?_some found
      split at written
      · rename_i own
        obtain ⟨write, member, onIt⟩ := List.any_eq_true.mp own
        refine Or.inl (List.mem_map.mpr ⟨write, List.mem_append_left _ member, ?_⟩)
        exact beq_iff_eq.mp onIt
      · split at written
        · obtain rfl := Option.some.inj written
          exact Or.inl (List.mem_map.mpr ⟨_, List.mem_append_right _ List.mem_cons_self, same⟩)
        · rename_i unmet
          refine Or.inr (settle current there same ?_)
          by_contra selected
          have selects := Bool.eq_true_of_not_eq_false selected
          exact unmet (by rw [sees current there selects, selects]; rfl)

/-! ## A session and what becomes of it -/

/-- What holds of a session while it is open, and of what it has answered once it has
committed. -/
structure Noted (running : Session → Prop) (answered : Operation → Except EdgeError Answer → Prop)
    (store : Store) (sid : Nat) : Prop where
  /-- While it is open. -/
  open_ : ∀ session, store.sessions sid = some session → running session
  /-- Once it has committed. -/
  closed : ∀ operation answer, store.outcomes sid = some (operation, .committed answer) →
    answered operation answer

section

variable {acted : Nat} {running going : Session → Prop}
  {answered stays : Operation → Except EdgeError Answer → Prop}

/-- A step at which a session opens or goes on. -/
theorem Noted.goesOn {next : Session} (noted : Noted running answered store sid)
    (still : ∀ operation answer, answered operation answer → stays operation answer)
    (aside : ∀ session, store.sessions sid = some session →
      after.sessions sid = store.sessions sid → running session → going session)
    (sessions : after.sessions = Function.update store.sessions acted (some next))
    (outcomes : after.outcomes = store.outcomes) (own : sid = acted → going next) :
    Noted going stays after sid where
  open_ session found := by
    by_cases same : sid = acted
    · rw [sessions, same, Function.update_self] at found
      obtain rfl := Option.some.inj found
      exact own same
    · have kept : after.sessions sid = store.sessions sid := by
        rw [sessions, Function.update_of_ne same]
      have was := kept ▸ found
      exact aside session was kept (noted.open_ session was)
  closed operation answer ended := by
    rw [outcomes] at ended
    exact still operation answer (noted.closed operation answer ended)

/-- A step at which a session ends. -/
theorem Noted.ends {operation : Operation} {outcome : Outcome}
    (noted : Noted running answered store sid)
    (still : ∀ operation answer, answered operation answer → stays operation answer)
    (aside : ∀ session, store.sessions sid = some session →
      after.sessions sid = store.sessions sid → running session → going session)
    (sessions : after.sessions = Function.update store.sessions acted none)
    (outcomes : after.outcomes =
      Function.update store.outcomes acted (some (operation, outcome)))
    (own : sid = acted → ∀ answer, outcome = .committed answer → stays operation answer) :
    Noted going stays after sid where
  open_ session found := by
    by_cases same : sid = acted
    · rw [sessions, same, Function.update_self] at found
      contradiction
    · have kept : after.sessions sid = store.sessions sid := by
        rw [sessions, Function.update_of_ne same]
      have was := kept ▸ found
      exact aside session was kept (noted.open_ session was)
  closed isOperation answer ended := by
    by_cases same : sid = acted
    · rw [outcomes, same, Function.update_self] at ended
      obtain ⟨rfl, rfl⟩ := Prod.mk.inj (Option.some.inj ended)
      exact own same answer rfl
    · rw [outcomes, Function.update_of_ne same] at ended
      exact still isOperation answer (noted.closed isOperation answer ended)

end

/-! ## A session and a notification -/

/-- What a session has done about a notification: swept it, once its statement has returned, or
left it among the rows the statement has yet to visit. -/
structure Sweeping (store : Store) (sid : Nat) (id : Uuid) (session : Session) : Prop where
  /-- The statement has returned, and the notification is swept. -/
  ran : ∀ statement ∈ session.executed, session.operation.writing = some statement →
    store.Swept sid statement id
  /-- The statement is running: it has yet to visit the row, or has swept it. -/
  scans : ∀ statement next snapshot targets,
    session.stage = .scanning statement next snapshot targets →
      id ∈ targets.map Row.id ∨ store.Swept sid statement id

/-- Where a session and a notification have come to: the session sweeps, and once it has
committed the notification is cleared. -/
def Sweeps (store : Store) (sid : Nat) (id : Uuid) : Prop :=
  Noted (store.Sweeping sid id)
    (fun operation _ => ∀ statement ∈ operation.writing, store.Cleared statement id) store sid

/-- The session has not come to its writing statement: it is not open yet, or the statement has
not started. -/
structure Ahead (store : Store) (sid : Nat) : Prop where
  /-- The session has not ended. -/
  unended : store.outcomes sid = none
  /-- Its writing statement has not started. -/
  unread : ∀ session, store.sessions sid = some session →
    (∃ body, session.stage = .ready body) ∧
      ∀ statement ∈ session.operation.writing, statement ∉ session.executed

/-- Nothing is owed before the statement starts. -/
theorem Ahead.sweeps (ahead : store.Ahead sid) (id : Uuid) : store.Sweeps sid id where
  open_ session found := by
    obtain ⟨⟨body, at_⟩, unrun⟩ := ahead.unread session found
    refine ⟨fun statement ran own => absurd ran (unrun statement own), ?_⟩
    intro statement next snapshot targets scanning
    rw [at_] at scanning
    contradiction
  closed operation answer ended := by
    rw [ahead.unended] at ended
    contradiction

/-- A session sweeps as it did while it keeps what it holds. -/
theorem Sweeping.aside {action : Action} (sweeping : store.Sweeping sid id session)
    (sound : Sound initial store) (stepped : store.step action = some after)
    (held : store.heldBy sid ⊆ after.heldBy sid) : after.Sweeping sid id session where
  ran statement ran own := (sweeping.ran statement ran own).step sound stepped held
  scans statement next snapshot targets at_ :=
    (sweeping.scans statement next snapshot targets at_).imp_right fun swept =>
      swept.step sound stepped held

/-- A session whose statement has returned has swept what the statement had. -/
theorem Sweeping.resume (sweeping : store.Sweeping sid id session) {body : Tx Ending}
    (swept : session.operation.writing = some statement → store.Swept sid statement id) :
    store.Sweeping sid id (session.resume statement body) := by
  refine ⟨fun other ran own => ?_, fun other next snapshot targets at_ => by contradiction⟩
  rcases List.mem_append.mp ran with old | new
  · exact sweeping.ran other old own
  · obtain rfl := List.mem_singleton.mp new
    exact swept own

/-- A session under the policy of its role sees every row that its statement selects. -/
theorem sees_of_selects {current : Row} (ordinary : store.policies = Operation.policy)
    (own : session.operation.writing = some statement)
    (acts : session.operation.caller ≠ none → session.currentUser = session.operation.caller)
    (selected : statement.selects current = true) : store.sees session current = true := by
  obtain ⟨caller, scope⟩ := Operation.caller_of_writing own selected
  have user : session.currentUser = some current.recipientId := by
    rw [acts (by simp [caller]), caller]
  simp [sees, ordinary, scope, notificationsAppScope, user]

/-- When a statement starts, a notification that was there is among its targets or cleared. -/
theorem swept_of_scan (used : id ∈ store.history.map Write.id)
    (sees : ∀ current ∈ store.rows, statement.selects current = true →
      store.sees session current = true) (now : DateTime) :
    id ∈ (statement.targets now (store.rows.filter (store.sees session))).map Row.id ∨
      store.Cleared statement id := by
  by_cases selected : ∃ current ∈ store.rows, current.id = id ∧ statement.selects current = true
  · obtain ⟨current, there, same, selects⟩ := selected
    have member : current ∈
        (store.rows.filter (store.sees session)).filter statement.selects :=
      List.mem_filter.mpr ⟨List.mem_filter.mpr ⟨there, sees current there selects⟩, selects⟩
    left
    refine List.mem_map.mpr ⟨current, ?_, same⟩
    cases statement with
    | insert ids sourceEventId recipientIds template payload link => contradiction
    | _ => exact member
  · refine Or.inr ⟨used, fun current there same => ?_⟩
    by_contra selects
    exact selected ⟨current, there, same, Bool.eq_true_of_not_eq_false selects⟩

/-- What a session commits on a notification clears it. -/
theorem cleared_of_commit {action : Action} {now : DateTime} (sound : Sound initial store)
    (stepped : store.step action = some after)
    (rows : after.rows = applyWrites store.rows (store.heldBy sid))
    (permitted : ∀ write ∈ store.heldBy sid, statement.Permits now write)
    (used : id ∈ store.history.map Write.id) (on : id ∈ (store.heldBy sid).map Write.id) :
    after.Cleared statement id where
  used := List.map_subset _ (history_grows stepped).subset used
  unselected current there same := by
    rw [rows, mem_applyWrites sound.consistent.unique (sound.consistent.lawful sid)] at there
    rcases there with ⟨write, member, left⟩ | ⟨-, untouched⟩
    · exact (permitted write member).spent left
    · exact absurd (same ▸ on) untouched

/-- Every step keeps where they have come to. -/
theorem sweeps_step {action : Action} (sound : Sound initial store)
    (ordinary : store.policies = Operation.policy) (writing : store.AllWriting)
    (used : id ∈ store.history.map Write.id) (sweeps : store.Sweeps sid id)
    (stepped : store.step action = some after) : after.Sweeps sid id := by
  have stepped' := stepped
  have still : ∀ (operation : Operation) (_ : Except EdgeError Answer),
      (∀ statement ∈ operation.writing, store.Cleared statement id) →
      ∀ statement ∈ operation.writing, after.Cleared statement id :=
    fun operation _ cleared statement own => (cleared statement own).step sound stepped
  have aside : ∀ session, store.sessions sid = some session →
      after.sessions sid = store.sessions sid → store.Sweeping sid id session →
      after.Sweeping sid id session := by
    intro session found kept sweeping
    exact sweeping.aside sound stepped (heldBy_of_other stepped kept (by simp [found]))
  cases moves_of_step stepped with
  | @begin acted operation now idle unused =>
    refine sweeps.goesOn still aside rfl rfl fun same => ⟨?_, ?_⟩
    · intro statement ran
      contradiction
    · intro statement next snapshot targets at_
      contradiction
  | @reply acted session statement next found at_ reads =>
    refine sweeps.goesOn still aside rfl rfl ?_
    rintro rfl
    refine ((sweeps.open_ session found).aside sound stepped' (List.Subset.refl _)).resume ?_
    intro own
    rw [Operation.isWrite_of_writing own] at reads
    contradiction
  | @scan acted session statement next found at_ writes =>
    refine sweeps.goesOn still aside rfl rfl ?_
    rintro rfl
    have owes := (writing sid session found).writer
    simp only [Session.Writer, at_] at owes
    obtain ⟨own, acts⟩ := owes.1 writes
    have sees : ∀ current ∈ store.rows, statement.selects current = true →
        store.sees session current = true :=
      fun current _ selected => sees_of_selects ordinary own acts selected
    refine ⟨((sweeps.open_ session found).aside sound stepped' (List.Subset.refl _)).ran, ?_⟩
    rintro _ _ _ _ ⟨⟩
    exact (swept_of_scan used sees session.now).imp_right fun cleared =>
      Or.inr (cleared.step sound stepped')
  | @visit acted index session statement next snapshot targets target writes found at_ aimed free
      written =>
    refine sweeps.goesOn still aside rfl rfl ?_
    rintro rfl
    have owes := (writing sid session found).writer
    simp only [Session.Writer, at_] at owes
    have held : store.heldBy sid ⊆ (store.lock sid writes).heldBy sid := by
      rw [heldBy_lock_self]
      exact List.subset_append_left _ _
    have was := (sweeps.open_ session found).aside sound stepped' held
    refine ⟨was.ran, ?_⟩
    rintro _ _ _ _ ⟨⟩
    rcases was.scans statement next snapshot targets at_ with waiting | swept
    · obtain ⟨row, there, onRow⟩ := List.mem_map.mp waiting
      rcases List.mem_cons.mp ((perm_of_aimed aimed).mem_iff.mpr there) with visited | left
      · -- The row is the one visited.
        subst visited onRow
        have sees : ∀ current ∈ store.rows, statement.selects current = true →
            store.sees session current = true :=
          fun current _ selected => sees_of_selects ordinary owes.1 owes.2.1 selected
        exact Or.inr (swept_of_visit _ sound used sees written)
      · exact Or.inl (onRow ▸ List.mem_map_of_mem left)
    · exact Or.inr swept
  | @finish acted session statement next snapshot found at_ =>
    refine sweeps.goesOn still aside rfl rfl ?_
    rintro rfl
    have was := (sweeps.open_ session found).aside sound stepped' (List.Subset.refl _)
    refine was.resume fun _ => ?_
    exact (was.scans statement next snapshot [] at_).resolve_left (List.not_mem_nil)
  | @commit acted session answer found at_ =>
    refine sweeps.ends still aside rfl rfl ?_
    rintro rfl answer' - statement own
    have was := writing sid session found
    have completes := was.writer
    simp only [Session.Writer, at_] at completes
    by_cases selects : ∃ row, statement.selects row = true
    · obtain ⟨row, selected⟩ := selects
      have ran := completes answer rfl statement own row selected
      rcases (sweeps.open_ session found).ran statement ran own with held | cleared
      · have permitted : ∀ write ∈ store.heldBy sid, statement.Permits session.now write := by
          intro write member
          obtain ⟨other, isOther, permits⟩ := was.held write member
          obtain rfl := Option.some.inj (own.symm.trans isOther)
          exact permits
        exact cleared_of_commit sound stepped' rfl permitted used held
      · exact cleared.step sound stepped'
    · -- The statement selects nothing at all, and may not have run.
      refine ⟨List.map_subset _ (history_grows stepped').subset used, ?_⟩
      intro current _ _
      by_contra selected
      exact selects ⟨current, Bool.eq_true_of_not_eq_false selected⟩
  | @rollback acted session found =>
    refine sweeps.ends still aside rfl rfl ?_
    intro same answer isCommitted
    contradiction

/-- A database under the service's own policies, with what its open sessions hold. -/
structure Regular (initial : List Row) (store : Store) : Prop where
  /-- The database is sound. -/
  sound : Sound initial store
  /-- The policies are those of the service. -/
  ordinary : store.policies = Operation.policy
  /-- What every open session holds and is about to visit is its operation's. -/
  writing : store.AllWriting

/-- Every step keeps the database regular. -/
theorem regular_step {action : Action} (regular : Regular initial store)
    (stepped : store.step action = some after) : Regular initial after where
  sound := sound_step regular.sound stepped
  ordinary := (policies_kept stepped).trans regular.ordinary
  writing := writing_step regular.sound regular.writing stepped

/-- Every reachable database is one. -/
theorem Reachable.regular {table : Notifications} (reached : Reachable table store) :
    Regular table.rows store :=
  Reaches.invariant reached (fun _ _ _ regular _ stepped => regular_step regular stepped)
    ⟨start_sound table, rfl, start_writing table.rows⟩

/-- What was there when a statement had not started is not selected by it once it has
committed. -/
theorem Regular.spares_nothing {operation : Operation} {answer : Except EdgeError Answer}
    (regular : Regular initial store) (ahead : store.Ahead sid)
    (run : Reaches step anyStep store later)
    (ended : later.outcomes sid = some (operation, .committed answer))
    (own : operation.writing = some statement) :
    ∀ row ∈ later.rows, statement.selects row = true → row.id ∉ store.history.map Write.id := by
  intro row there selected used
  have keeps : ∀ (before : Store) (action : Action) (after : Store),
      Regular initial before ∧ row.id ∈ before.history.map Write.id ∧ before.Sweeps sid row.id →
      anyStep before action →
      before.step action = some after → Regular initial after ∧
      row.id ∈ after.history.map Write.id ∧
        after.Sweeps sid row.id := by
    rintro before action after ⟨regular, used, sweeps⟩ - stepped
    exact ⟨regular_step regular stepped, List.map_subset _ (history_grows stepped).subset used,
      sweeps_step regular.sound regular.ordinary regular.writing used sweeps stepped⟩
  have kept := run.invariant keeps ⟨regular, used, ahead.sweeps row.id⟩
  have unselected := (kept.2.2.closed operation answer ended statement own).unselected row there rfl
  rw [selected] at unselected
  contradiction

end Store

/-- No mutation spares a notification it was asked about. Whatever other sessions do while its
statement runs, in whatever order the statement visits its rows: once it has committed, and in
every later state, a notification that it would still select has been committed after the
statement started. -/
theorem mutations_spare_nothing (table : Notifications) (store later : Store) (sid : Nat)
    (reached : Store.Reachable table store) (ahead : store.Ahead sid)
    (run : Reaches Store.step anyStep store later) (answer : Except EdgeError Answer) :
    (∀ utcNow caller, later.outcomes sid = some (.markAllAsRead utcNow caller, .committed answer) →
      ∀ row ∈ later.rows, row.recipientId = caller → row.readAt = none →
        row.id ∉ store.history.map Write.id) ∧
    (∀ caller id, later.outcomes sid = some (.markAsRead caller id, .committed answer) →
      ∀ row ∈ later.rows, row.id = id → row.recipientId = caller → row.readAt = none →
        row.id ∉ store.history.map Write.id) ∧
    (∀ caller ids, later.outcomes sid = some (.deleteNotifications caller ids, .committed answer) →
      ∀ row ∈ later.rows, row.recipientId = caller → row.id ∈ ids →
        row.id ∉ store.history.map Write.id) ∧
    ∀ caller id, later.outcomes sid = some (.deleteNotification caller id, .committed answer) →
      ∀ row ∈ later.rows, row.recipientId = caller → row.id = id →
        row.id ∉ store.history.map Write.id := by
  have regular := reached.regular
  refine ⟨?_, ?_, ?_, ?_⟩
  · intro utcNow caller ended row there owned unread
    apply regular.spares_nothing ahead run ended rfl row there
    simp [Statement.selects, owned, unread]
  · intro caller id ended row there same owned unread
    apply regular.spares_nothing ahead run ended rfl row there
    simp [Statement.selects, same, owned, unread]
  · intro caller ids ended row there owned named
    apply regular.spares_nothing ahead run ended rfl row there
    simp [Statement.selects, owned, named]
  · intro caller id ended row there owned same
    apply regular.spares_nothing ahead run ended rfl row there
    simp [Statement.selects, owned, same]

/-- A recipient marks everything as read; a notification arrives between the snapshot and the
visit of the first. -/
def sampleSweep : List Store.Action :=
  [.begin 5 (.markAllAsRead ⟨5000⟩ (sampleId 2)) ⟨9000⟩, .advance 5, .advance 5] ++
    sampleFanOut ++ [.commit 0, .visit 5 0, .finish 5, .advance 5, .commit 5]

/-- The database once the sweep has committed. -/
def sampleSwept : Store :=
  (play Store.step (Store.start sampleUnread.rows) sampleSweep).get (by decide)

/-- The only notification left unread is the one that has arrived. -/
theorem mutations_spare_nothing_sample :
    (∀ row ∈ sampleSwept.rows, row.recipientId = sampleId 2 → row.readAt = none →
      row.id ∉ (Store.start sampleUnread.rows).history.map Write.id) ∧
    ((sampleSwept.rows.filter fun row => row.recipientId == sampleId 2).map fun row =>
      (row.id, row.readAt.isSome)) = [(sampleId 7, true), (sampleId 10, false)] := by
  refine ⟨?_, by decide⟩
  have ahead : (Store.start sampleUnread.rows).Ahead 5 :=
    ⟨rfl, fun session found => by contradiction⟩
  exact (mutations_spare_nothing sampleUnread _ sampleSwept 5 (Reaches.refl _) ahead
    (reaches_of_play (Option.some_get _).symm) (.ok .ack)).1 _ _ rfl

/-! ## What is counted afterwards -/

namespace Store

variable {first store after later : Store} {initial : List Row} {sid : Nat}
  {caller : Uuid} {n : Nat}

/-- The caller's unread notifications. -/
def unread (store : Store) (caller : Uuid) : List Row :=
  store.rows.filter fun row => row.readAt.isNone && row.recipientId == caller

/-- The session is about to run the statement. -/
def About (store : Store) (sid : Nat) (statement : Statement) : Prop :=
  ∃ session next, store.sessions sid = some session ∧
    session.stage = .ready (.call statement next)

/-- `n` is the number of the caller's unread notifications at the moment since `first` at which
the session's SELECT ran. -/
def Tallies (first store : Store) (sid : Nat) (caller : Uuid) (n : Nat) : Prop :=
  ∃ moment next, Reaches step anyStep first moment ∧ moment.About sid (.countUnread caller) ∧
    moment.step (.advance sid) = some next ∧ Reaches step anyStep next store ∧
    n = (moment.unread caller).length

/-- What has been tallied stays so. -/
theorem Tallies.step {action : Action} (tallies : Tallies first store sid caller n)
    (stepped : store.step action = some after) : Tallies first after sid caller n := by
  obtain ⟨moment, next, before, about, ran, since, same⟩ := tallies
  exact ⟨moment, next, before, about, ran, since.snoc trivial stepped, same⟩

/-- The answer of a count. -/
def counted (n : Nat) : Except EdgeError Answer :=
  .ok (.count (Int32.ofInt (Int.ofNat n)).toInt)

/-- How far a count has come: before it acts for its caller, before its statement, or with a
number that tallies. -/
inductive Counting (first store : Store) (sid : Nat) (caller : Uuid) (session : Session) :
    Prop where
  /-- The transaction has just opened. -/
  | starts (at_ : session.stage = .ready (notifierUnreadCount caller))
  /-- It acts for its caller. -/
  | acts (user : session.currentUser = some caller) (at_ : session.stage = .ready
      (.call (.countUnread caller) fun n => .done (.commit (counted n))))
  /-- The count has run. -/
  | done (n : Nat) (tallies : Tallies first store sid caller n)
      (at_ : session.stage = .ready (.done (.commit (counted n))))

/-- A count that a session runs, and one that it has answered, tallies. -/
def CountsTrue (first store : Store) (caller : Uuid) (sid : Nat) : Prop :=
  Noted (fun session => session.operation = .unreadCount caller →
      Counting first store sid caller session)
    (fun operation answer => operation = .unreadCount caller →
      ∃ n, Tallies first store sid caller n ∧ answer = counted n) store sid

/-- A count stands as it did after a step of another session. -/
theorem Counting.step {session : Session} {action : Action}
    (counting : Counting first store sid caller session)
    (stepped : store.step action = some after) : Counting first after sid caller session := by
  cases counting with
  | starts at_ => exact .starts at_
  | acts user at_ => exact .acts user at_
  | done n tallies at_ => exact .done n (tallies.step stepped) at_

/-- A count is never within a writing statement. -/
theorem Counting.unscanning {session : Session} (counting : Counting first store sid caller session)
    {statement : Statement} {next : statement.Reply → Tx Ending} {snapshot targets : List Row} :
    session.stage ≠ .scanning statement next snapshot targets := by
  intro scanning
  cases counting with
  | starts at_ => cases at_.symm.trans scanning
  | acts user at_ => cases at_.symm.trans scanning
  | done n tallies at_ => cases at_.symm.trans scanning

/-- A session that acts for the caller counts the caller's unread notifications, and all of them. -/
theorem unread_of_snapshot {session : Session} (ordinary : store.policies = Operation.policy)
    (isCount : session.operation = .unreadCount caller)
    (user : session.currentUser = some caller) :
    ((store.rows.filter (store.sees session)).filter fun row =>
      row.readAt.isNone && row.recipientId == caller) = store.unread caller := by
  rw [List.filter_filter, unread]
  apply List.filter_congr
  intro row _
  by_cases own : row.recipientId = caller
  · have seen : store.sees session row = true := by
      simp [sees, ordinary, isCount, Operation.policy, notificationsAppScope, user, own]
    rw [seen, Bool.and_true]
  · rw [beq_false_of_ne own, Bool.and_false, Bool.false_and]

/-- Every step keeps the counts of a session true. -/
theorem counts_step {action : Action} (ordinary : store.policies = Operation.policy)
    (since : Reaches step anyStep first store) (counts : CountsTrue first store caller sid)
    (stepped : store.step action = some after) : CountsTrue first after caller sid := by
  have still : ∀ (operation : Operation) (answer : Except EdgeError Answer),
      (operation = .unreadCount caller →
        ∃ n, Tallies first store sid caller n ∧ answer = counted n) →
      operation = .unreadCount caller →
        ∃ n, Tallies first after sid caller n ∧ answer = counted n := by
    intro operation answer answered isCount
    obtain ⟨n, tallies, same⟩ := answered isCount
    exact ⟨n, tallies.step stepped, same⟩
  have aside : ∀ session, store.sessions sid = some session →
      after.sessions sid = store.sessions sid →
      (session.operation = .unreadCount caller → Counting first store sid caller session) →
      session.operation = .unreadCount caller → Counting first after sid caller session :=
    fun _ _ _ counting isCount => (counting isCount).step stepped
  have ran := stepped
  cases moves_of_step stepped with
  | @begin acted operation now idle unused =>
    refine counts.goesOn still aside rfl rfl ?_
    rintro rfl rfl
    exact .starts rfl
  | @reply acted session statement next found at_ reads =>
    refine counts.goesOn still aside rfl rfl ?_
    intro same isCount
    subst same
    cases counts.open_ session found isCount with
    | starts was =>
      cases at_.symm.trans was
      exact .acts rfl rfl
    | acts user was =>
      cases at_.symm.trans was
      refine .done _ ⟨store, _, since, ⟨session, _, found, was⟩, ran, .refl _, rfl⟩ ?_
      rw [← unread_of_snapshot ordinary isCount user]
      rfl
    | done n tallies was => cases at_.symm.trans was
  | @scan acted session statement next found at_ writes =>
    refine counts.goesOn still aside rfl rfl ?_
    intro same isCount
    subst same
    cases counts.open_ session found isCount with
    | starts was =>
      cases at_.symm.trans was
      contradiction
    | acts user was =>
      cases at_.symm.trans was
      contradiction
    | done n tallies was => cases at_.symm.trans was
  | @visit acted index session statement next snapshot targets target writes found at_ aimed free
      written =>
    refine counts.goesOn still aside rfl rfl ?_
    rintro rfl isCount
    exact absurd at_ (counts.open_ session found isCount).unscanning
  | @finish acted session statement next snapshot found at_ =>
    refine counts.goesOn still aside rfl rfl ?_
    rintro rfl isCount
    exact absurd at_ (counts.open_ session found isCount).unscanning
  | @commit acted session answer found at_ =>
    refine counts.ends still aside rfl rfl ?_
    rintro rfl _ ⟨⟩ isCount
    cases counts.open_ session found isCount with
    | starts was => cases at_.symm.trans was
    | acts user was => cases at_.symm.trans was
    | done n tallies was =>
      cases at_.symm.trans was
      exact ⟨n, tallies.step ran, rfl⟩
  | @rollback acted session found =>
    refine counts.ends still aside rfl rfl ?_
    intro same answer isCommitted
    contradiction

end Store

/-- A recipient reads its own writes: once a mark-all has committed, a count that is opened later
is the number, up to the cast of the count, of the caller's unread notifications at the moment its
SELECT runs, and each of them has been committed after the mark-all's statement had started. -/
theorem count_after_mark_all (table : Notifications) (store later last : Store)
    (marking counting : Nat) (utcNow : DateTime) (caller : Uuid)
    (answer : Except EdgeError Answer) (n : Int)
    (reached : Store.Reachable table store) (ahead : store.Ahead marking)
    (marked : Reaches Store.step anyStep store later)
    (committed : later.outcomes marking = some (.markAllAsRead utcNow caller, .committed answer))
    (unopened : later.sessions counting = none ∧ later.outcomes counting = none)
    (run : Reaches Store.step anyStep later last)
    (answered : last.outcomes counting =
      some (.unreadCount caller, .committed (.ok (.count n)))) :
    ∃ moment next, Reaches Store.step anyStep later moment ∧
      moment.About counting (.countUnread caller) ∧
      moment.step (.advance counting) = some next ∧ Reaches Store.step anyStep next last ∧
      n = (Int32.ofInt (Int.ofNat (moment.unread caller).length)).toInt ∧
      ∀ row ∈ moment.unread caller, row.id ∉ store.history.map Write.id := by
  have keeps : ∀ (before : Store) (action : Store.Action) (after : Store),
      (before.policies = Operation.policy ∧ Reaches Store.step anyStep later before ∧
        Store.CountsTrue later before caller counting) →
      anyStep before action → before.step action = some after →
      after.policies = Operation.policy ∧ Reaches Store.step anyStep later after ∧
        Store.CountsTrue later after caller counting := by
    rintro before action after ⟨ordinary, since, counts⟩ any stepped
    exact ⟨(Store.policies_kept stepped).trans ordinary, since.snoc any stepped,
      Store.counts_step ordinary since counts stepped⟩
  have begun : Store.CountsTrue later later caller counting := by
    refine ⟨fun session found => ?_, fun operation answer ended => ?_⟩
    · rw [unopened.1] at found
      contradiction
    · rw [unopened.2] at ended
      contradiction
  have ordinary : later.policies = Operation.policy :=
    (Store.Reachable.regular (Reaches.trans reached marked)).ordinary
  have kept := run.invariant keeps ⟨ordinary, .refl later, begun⟩
  obtain ⟨count, ⟨moment, next, between, about, ran, since, tally⟩, same⟩ :=
    kept.2.2.closed _ _ answered rfl
  refine ⟨moment, next, between, about, ran, since, ?_, ?_⟩
  · rw [← tally]
    simpa [Store.counted] using same
  · intro row member
    obtain ⟨there, selected⟩ := List.mem_filter.mp member
    simp only [Bool.and_eq_true, Option.isNone_iff_eq_none, beq_iff_eq] at selected
    have ended : moment.outcomes marking =
        some (.markAllAsRead utcNow caller, .committed answer) := by
      have keeps : ∀ (before : Store) (action : Store.Action) (after : Store),
          (Store.Reachable table before ∧ before.outcomes marking =
            some (.markAllAsRead utcNow caller, .committed answer)) →
          anyStep before action → before.step action = some after →
          Store.Reachable table after ∧ after.outcomes marking =
            some (.markAllAsRead utcNow caller, .committed answer) := by
        rintro before action after ⟨here_, ended⟩ any stepped
        exact ⟨here_.snoc any stepped, Store.outcomes_kept here_.sound stepped ended⟩
      exact (between.invariant keeps ⟨Reaches.trans reached marked, committed⟩).2
    apply reached.regular.spares_nothing ahead (marked.trans between) ended rfl row there
    simp [Statement.selects, selected.1, selected.2]

/-- The recipient counts what is unread. -/
def sampleCounting : List Store.Action :=
  [.begin 6 (.unreadCount (sampleId 2)) ⟨9000⟩, .advance 6, .advance 6, .commit 6]

/-- The database once the count has returned. -/
def sampleCounted : Store := (play Store.step sampleSwept sampleCounting).get (by decide)

/-- The count is one, of the notification that has arrived. -/
theorem count_after_mark_all_sample :
    (∃ moment next, Reaches Store.step anyStep sampleSwept moment ∧
      moment.About 6 (.countUnread (sampleId 2)) ∧
      moment.step (.advance 6) = some next ∧ Reaches Store.step anyStep next sampleCounted ∧
      (1 : Int) = (Int32.ofInt (Int.ofNat (moment.unread (sampleId 2)).length)).toInt ∧
      ∀ row ∈ moment.unread (sampleId 2),
        row.id ∉ (Store.start sampleUnread.rows).history.map Write.id) ∧
    (sampleCounted.unread (sampleId 2)).map Row.id = [sampleId 10] :=
  ⟨count_after_mark_all sampleUnread _ sampleSwept sampleCounted 5 6 ⟨5000⟩ (sampleId 2) (.ok .ack)
    1 (Reaches.refl _) ⟨rfl, fun session found => by contradiction⟩
    (reaches_of_play (Option.some_get _).symm) rfl ⟨rfl, rfl⟩
    (reaches_of_play (Option.some_get _).symm) rfl, by decide⟩

end SvcNotifier
