import SvcNotifier.Bulk
import SvcNotifier.Library.Grants

/-!
# What the database lets each role do

The service connects under two roles, with the grants and the policies of migrations 0001 and
0002. Whatever statements a connection were to send, these confine what they do to the inboxes and
to the ledger; and what the service itself does stays within them, so nothing of it is refused.
-/

namespace SvcNotifier

open Library Program

/-- The roles that the service connects under. -/
inductive Role where
  /-- `svc_notifier_app`. -/
  | app
  /-- `svc_notifier_ingest`. -/
  | ingest
  deriving DecidableEq, Repr

/-- A connection, with its `app.current_user_id`. -/
structure Connection where
  /-- The role it has logged in as. -/
  role : Role
  /-- The setting that the policy reads. -/
  currentUser : Option Uuid

/-- `GRANT … ON notifications`. -/
def Role.onNotifications : Role → List Privilege
  | .app => [.select, .update, .delete]
  | .ingest => [.select, .insert]

/-- `GRANT … ON dead_letters`. -/
def Role.onDeadLetters : Role → List Privilege
  | .app => []
  | .ingest => [.select, .insert, .delete]

/-- The policy of a role on `notifications`. -/
def Role.policy : Role → Policy
  | .app => notificationsAppScope
  | .ingest => notificationsIngestWrite

/-- Access to `notifications`, where each policy has one expression for `USING` and for
`WITH CHECK`. -/
def notificationsAccess : Access Connection Row where
  granted who privilege := decide (privilege ∈ who.role.onNotifications)
  reaches who row := who.role.policy who.currentUser row
  leaves who row := who.role.policy who.currentUser row

/-- Access to `dead_letters`: `dead_letters_ingest_write` is its one policy, and row-level security
is forced. -/
def deadLettersAccess : Access Connection DeadLetter where
  granted who privilege := decide (privilege ∈ who.role.onDeadLetters)
  reaches who _ := decide (who.role = .ingest)
  leaves who _ := decide (who.role = .ingest)

/-- The notifications of a recipient. -/
def inbox (recipientId : Uuid) (row : Row) : Bool := row.recipientId == recipientId

/-- What a statement on `notifications` needs to have been granted: `RETURNING`, `WHERE` and
`ON CONFLICT` read columns. -/
def Statement.privileges : Statement → List Privilege
  | .setConfig _ => []
  | .insert .. => [.insert, .select]
  | .anchor .. => [.select]
  | .page .. => [.select]
  | .countUnread _ => [.select]
  | .markRead .. => [.select, .update]
  | .markAllRead .. => [.update, .select]
  | .delete .. => [.delete, .select]
  | .select .. => [.select]
  | .pgNotify _ => []

namespace Operation

/-- The role of the pool that an operation runs on. -/
def role : Operation → Role
  | .fanOut .. => .ingest
  | _ => .app

/-- The connection that an operation writes on. -/
def connection (operation : Operation) : Connection :=
  { role := operation.role, currentUser := operation.caller }

/-- The policies that the sessions run under are those of their roles. -/
theorem policy_eq : Operation.policy = fun operation => operation.role.policy := by
  funext operation
  cases operation <;> rfl

end Operation

/-! ## What no statement can do -/

/-- A connection that does not act for a recipient reaches nothing of the recipient's. -/
theorem clear_of_stranger {recipientId : Uuid} {who : Connection} (app : who.role = .app)
    (stranger : who.currentUser ≠ some recipientId) :
    notificationsAccess.Clear (inbox recipientId) who := by
  intro row inside
  have owner : row.recipientId = recipientId := beq_iff_eq.mp inside
  have outside : who.role.policy who.currentUser row = false := by
    rw [app, Role.policy, notificationsAppScope, owner, beq_eq_false_iff_ne]
    exact stranger
  exact ⟨outside, outside⟩

/-- The intake's role only adds. -/
theorem adds_of_ingest {who : Connection} (ingest : who.role = .ingest) :
    notificationsAccess.AddsOnly who := by
  constructor <;> simp only [notificationsAccess, ingest] <;> decide

/-- The other role adds nothing, and moves nothing to another recipient. -/
theorem brings_of_app {recipientId : Uuid} {who : Connection} (app : who.role = .app) :
    notificationsAccess.BringsNone (inbox recipientId) who := by
  constructor
  · simp only [notificationsAccess, app]
    decide
  · intro before row reaches leaves inside
    have user : ∀ row, notificationsAccess.reaches who row = true →
        who.currentUser = some row.recipientId := by
      intro row able
      have reached : (who.currentUser == some row.recipientId) = true := by
        simpa only [notificationsAccess, app, Role.policy, notificationsAppScope] using able
      exact beq_iff_eq.mp reached
    have same := (user before reaches).symm.trans (user row leaves)
    have owner : row.recipientId = recipientId := beq_iff_eq.mp inside
    exact beq_iff_eq.mpr ((Option.some.inj same).trans owner)

/-- Nobody changes a row of the ledger. -/
theorem changesNone_deadLetters (who : Connection) : deadLettersAccess.ChangesNone who := by
  obtain ⟨role, currentUser⟩ := who
  cases role <;> rfl

/-- Only the intake's role was granted anything on the ledger. -/
theorem ingest_of_granted {who : Connection} {privilege : Privilege}
    (granted : deadLettersAccess.granted who privilege = true) : who.role = .ingest := by
  obtain ⟨role, currentUser⟩ := who
  cases role with
  | app => cases privilege <;> contradiction
  | ingest => rfl

/-! ## What a session asks for -/

/-- A statement has been granted to an operation's role, and comes to the table with the setting
that the policy of the other role reads. -/
structure Operation.Granted (operation : Operation) (statement : Statement)
    (currentUser : Option Uuid) : Prop where
  /-- The role has every privilege that the statement needs. -/
  privileges : ∀ privilege ∈ statement.privileges, privilege ∈ operation.role.onNotifications
  /-- Where the statement comes to the table as `notifier_app`, the setting names the caller. -/
  acts : statement.privileges ≠ [] → operation.role = .app →
    currentUser ≠ none ∧ currentUser = operation.caller

/-- Every statement is granted. -/
def grantContract (operation : Operation) :
    Contract Statement Statement.Reply (Option Uuid) where
  requires statement currentUser := operation.Granted statement currentUser
  allows statement currentUser _ after := after = statement.userAfter currentUser

section

variable {operation : Operation} {currentUser : Option Uuid} {caller : Uuid} {α : Type}
  {post : α → Option Uuid → Prop}

/-- A statement of a resolver that acts for its caller. -/
theorem granted_of_app {statement : Statement} (app : operation.role = .app)
    (acts : operation.caller = some caller)
    (within : ∀ privilege ∈ statement.privileges, privilege ∈ Role.app.onNotifications) :
    operation.Granted statement (some caller) where
  privileges := by
    rw [app]
    exact within
  acts _ _ := ⟨Option.some_ne_none caller, acts.symm⟩

/-- The rule for a statement that leaves the setting as it is. -/
theorem granted_runs {statement : Statement} {next : statement.Reply → Tx α}
    (granted : operation.Granted statement currentUser)
    (same : statement.userAfter currentUser = currentUser)
    (later : ∀ reply, Ensures (grantContract operation) post (next reply) currentUser) :
    Ensures (grantContract operation) post (.call statement next) currentUser := by
  refine ⟨granted, ?_⟩
  intro reply after isAfter
  have kept : after = currentUser := isAfter.trans same
  rw [kept]
  exact later reply

/-- A statement that comes to no table is granted. -/
theorem granted_of_none {statement : Statement} (none_ : statement.privileges = []) :
    operation.Granted statement currentUser where
  privileges privilege member := by
    rw [none_] at member
    contradiction
  acts some_ := absurd none_ some_

/-- Statements that send signals are granted to every role. -/
theorem granted_signals (signals : List NotificationSignal) :
    Ensures (grantContract operation) (fun _ after => after = currentUser) (signalAll signals)
      currentUser := by
  apply ensures_forM (fun (_ : List (List NotificationSignal)) after => after = currentUser)
    signal (chunks signalsPerStatement signals) rfl
  rintro batch rest after rfl
  exact granted_runs (granted_of_none rfl) rfl fun _ => rfl

/-- A resolver acts for its caller from `isCallertx` on. -/
theorem granted_scoped (caller : Uuid) (body : Tx Ending) {post : Ending → Option Uuid → Prop}
    (later : Ensures (grantContract operation) post body (some caller)) :
    Ensures (grantContract operation) post (do scopedTx caller; body) none := by
  refine ⟨granted_of_none rfl, ?_⟩
  rintro reply after rfl
  exact later

/-- What follows the signals. -/
theorem granted_signals_then {signals : List NotificationSignal} {next : PUnit → Tx α}
    (later : Ensures (grantContract operation) post (next ⟨⟩) currentUser) :
    Ensures (grantContract operation) post (signalAll signals >>= next) currentUser := by
  refine Ensures.bind ((granted_signals signals).mono ?_)
  rintro _ after rfl
  exact later

end

/-- No operation runs a statement that its role is refused, or before its caller is set. -/
theorem operation_granted (operation : Operation) :
    Ensures (grantContract operation) (fun _ _ => True) operation.body none := by
  cases operation with
  | fanOut nowV7 command =>
    have granted : (Operation.fanOut nowV7 command).Granted (Operation.insertion nowV7 command)
        none := by
      refine ⟨?_, fun _ app => by contradiction⟩
      simp [Operation.insertion, Statement.privileges, Operation.role, Role.onNotifications]
    refine granted_runs granted rfl fun rows => ?_
    apply Ensures.bind
    apply granted_signals_then
    trivial
  | notifications caller first cursor =>
    apply granted_scoped
    apply Ensures.bind
    have reads : ∀ statement : Statement, statement.privileges = [.select] →
        (Operation.notifications caller first cursor).Granted statement (some caller) := by
      intro statement same
      apply granted_of_app rfl rfl
      rw [same]
      decide
    have listed : Ensures (grantContract (.notifications caller first cursor)) (fun _ _ => True)
        (listNotifications caller first.toInt cursor) (some caller) := by
      apply ensures_listNotifications first.toInt cursor (fun user => user = some caller) rfl
      · rintro id _ rfl
        exact ⟨reads _ rfl, fun reply after same => same⟩
      · rintro after limit _ rfl
        exact reads _ rfl
    apply listed.mono
    intro page after _
    cases page <;> trivial
  | unreadCount caller =>
    apply granted_scoped
    refine granted_runs (granted_of_app rfl rfl ?_) rfl fun count => ?_
    · simp [Statement.privileges, Role.onNotifications]
    · trivial
  | markAsRead caller id =>
    apply granted_scoped
    apply Ensures.bind
    refine granted_runs (granted_of_app rfl rfl ?_) rfl fun row => ?_
    · simp [Statement.privileges, Role.onNotifications]
    · match row with
      | none => trivial
      | some (some readAt, true) =>
        apply granted_signals_then
        trivial
      | some (none, true) => trivial
      | some (none, false) => trivial
      | some (some readAt, false) => trivial
  | markAllAsRead utcNow caller =>
    apply granted_scoped
    apply Ensures.bind
    refine granted_runs (granted_of_app rfl rfl ?_) rfl fun ids => ?_
    · simp [Statement.privileges, Role.onNotifications]
    · cases ids with
      | nil => trivial
      | cons id rest =>
        apply granted_signals_then
        trivial
  | deleteNotification caller id =>
    apply granted_scoped
    apply Ensures.bind
    refine granted_runs (granted_of_app rfl rfl ?_) rfl fun deleted => ?_
    · simp [Statement.privileges, Role.onNotifications]
    · cases deleted with
      | nil => trivial
      | cons first rest =>
        apply granted_signals_then
        trivial
  | deleteNotifications caller ids =>
    apply granted_scoped
    apply Ensures.bind
    cases ids with
    | nil => trivial
    | cons id rest =>
      refine granted_runs (granted_of_app rfl rfl ?_) rfl fun deleted => ?_
      · simp [Statement.privileges, Role.onNotifications]
      · cases deleted with
        | nil => trivial
        | cons first others =>
          apply granted_signals_then
          trivial

/-- The statement that a session is about to run or is in the middle of. -/
def Session.statement? (session : Session) : Option Statement :=
  match session.stage with
  | .ready (.call statement _) => some statement
  | .ready _ => none
  | .scanning statement .. => some statement

/-- What is left of a session's program is granted. -/
def Session.Granted (session : Session) : Prop :=
  match session.stage with
  | .ready body => Ensures (grantContract session.operation) (fun _ _ => True) body
      session.currentUser
  | .scanning statement next _ _ => session.operation.Granted statement session.currentUser ∧
      ∀ reply, Ensures (grantContract session.operation) (fun _ _ => True) (next reply)
        (statement.userAfter session.currentUser)

/-- The statement that a session has come to is granted to it. -/
theorem Session.Granted.statement {session : Session} {statement : Statement}
    (granted : session.Granted) (at_ : session.statement? = some statement) :
    session.operation.Granted statement session.currentUser := by
  unfold Session.Granted at granted
  unfold Session.statement? at at_
  split at at_
  · rename_i request next stage
    rw [stage] at granted
    obtain rfl := Option.some.inj at_
    exact granted.1
  · contradiction
  · rename_i request next snapshot targets stage
    rw [stage] at granted
    obtain rfl := Option.some.inj at_
    exact granted.1

/-- A session whose statement has returned goes on as the rest of its program does. -/
theorem Session.granted_resume {session : Session} {statement : Statement} {body : Tx Ending}
    (rest : Ensures (grantContract session.operation) (fun _ _ => True) body
      (statement.userAfter session.currentUser)) : (session.resume statement body).Granted := by
  have same : (session.resume statement body).currentUser =
      statement.userAfter session.currentUser := by
    cases statement <;> rfl
  rw [← same] at rest
  exact rest

namespace Store

variable {store after : Store} {initial : List Row}

/-- Every step keeps the sessions within their grants. -/
theorem granted_step {action : Store.Action}
    (granted : ∀ sid session, store.sessions sid = some session → session.Granted)
    (stepped : store.step action = some after) :
    ∀ sid session, after.sessions sid = some session → session.Granted := by
  intro sid session found
  by_cases kept : after.sessions sid = store.sessions sid
  · exact granted sid session (kept ▸ found)
  -- The session took the step itself.
  cases moves_of_step stepped with
  | @begin acted operation now idle unused =>
    obtain ⟨rfl, rfl⟩ := acted_of_changed kept found
    exact operation_granted operation
  | @reply acted before statement next was at_ reads =>
    obtain ⟨rfl, rfl⟩ := acted_of_changed kept found
    have owes := granted _ _ was
    simp only [Session.Granted, at_] at owes
    exact Session.granted_resume (owes.2 _ _ rfl)
  | @scan acted before statement next was at_ writes =>
    obtain ⟨rfl, rfl⟩ := acted_of_changed kept found
    have owes := granted _ _ was
    simp only [Session.Granted, at_] at owes
    exact ⟨owes.1, fun reply => owes.2 reply _ rfl⟩
  | @visit acted index before statement next snapshot targets target writes was at_ aimed free
      written =>
    obtain ⟨rfl, rfl⟩ := acted_of_changed kept found
    have owes := granted _ _ was
    simp only [Session.Granted, at_] at owes
    exact owes
  | @finish acted before statement next snapshot was at_ =>
    obtain ⟨rfl, rfl⟩ := acted_of_changed kept found
    have owes := granted _ _ was
    simp only [Session.Granted, at_] at owes
    exact Session.granted_resume (owes.2 _)
  | @commit acted before answer was at_ =>
    by_cases same : sid = acted
    · simp [close, same] at found
    · exact absurd (by simp [close, publish, same]) kept
  | @rollback acted before was =>
    by_cases same : sid = acted
    · simp [close, same] at found
    · exact absurd (by simp [close, same]) kept

/-! ## What a commit does, row by row -/

variable {rows : List Row} {operation : Operation} {now : DateTime}

/-- A notification marked read by its recipient. -/
theorem reaches_setRead {row : Row} (unique : Unique rows) (there : row ∈ rows)
    (readAt : DateTime) :
    Reaches notificationsAccess.act (Access.By ⟨.app, some row.recipientId⟩) rows
      (applyWrite rows (.setRead row readAt)) := by
  apply Access.reaches_updates rfl (fun current : Row => current.id = row.id)
    (fun _ => { row with readAt := some readAt })
  intro current member same
  obtain rfl := unique.eq_of_id member there same
  have own : notificationsAppScope (some current.recipientId) current = true :=
    beq_iff_eq.mpr rfl
  exact ⟨own, own⟩

/-- A notification deleted by its recipient. -/
theorem reaches_delete {row : Row} (unique : Unique rows) (there : row ∈ rows) :
    Reaches notificationsAccess.act (Access.By ⟨.app, some row.recipientId⟩) rows
      (applyWrite rows (.delete row)) := by
  apply Access.reaches_deletes rfl (fun current : Row => decide (current.id ≠ row.id))
  intro current member removed
  have same : current.id = row.id := by
    by_contra apart
    rw [decide_eq_true apart] at removed
    contradiction
  obtain rfl := unique.eq_of_id member there same
  exact beq_iff_eq.mpr rfl

/-- A write of an operation is within what its connection may do. -/
theorem reaches_write {write : Write} {writes : List Write} (unique : Unique rows)
    (lawful : Lawful rows (write :: writes))
    (own : ∃ statement ∈ operation.writing, statement.Permits now write) :
    Reaches notificationsAccess.act (Access.By operation.connection) rows
      (applyWrite rows write) := by
  obtain ⟨statement, writing, permits⟩ := own
  -- An UPDATE and a DELETE are on a row of the operation's caller.
  have isCaller : ∀ row, statement.selects row = true →
      operation.connection = ⟨.app, some row.recipientId⟩ := by
    intro row selected
    obtain ⟨acts, -⟩ := Operation.caller_of_writing writing selected
    rw [Operation.connection, acts]
    cases operation with
    | fanOut nowV7 command => contradiction
    | _ => rfl
  cases statement with
  | insert ids sourceEventId recipientIds template payload link =>
    obtain ⟨row, proposed, rfl⟩ := permits
    have ingest : operation.connection.role = .ingest := by
      cases operation with
      | fanOut nowV7 command => rfl
      | notifications caller first cursor => contradiction
      | unreadCount caller => contradiction
      | _ => cases writing
    apply Access.reaches_inserts
    · simp only [notificationsAccess, ingest]
      decide
    · intro new member
      simp only [notificationsAccess, ingest]
      rfl
  | markRead id recipientId =>
    obtain ⟨row, selected, rfl⟩ := permits
    rw [isCaller row selected]
    exact reaches_setRead unique (lawful.reads row _ List.mem_cons_self).1 _
  | markAllRead readAt recipientId =>
    obtain ⟨row, selected, rfl⟩ := permits
    rw [isCaller row selected]
    exact reaches_setRead unique (lawful.reads row _ List.mem_cons_self).1 _
  | delete ids recipientId =>
    obtain ⟨row, selected, rfl⟩ := permits
    rw [isCaller row selected]
    exact reaches_delete unique (lawful.deletes row List.mem_cons_self)
  | _ =>
    obtain ⟨row, selected, rfl⟩ := permits
    contradiction

/-- Lawful writes that an operation may make are acts of its connection, one after the other. -/
theorem reaches_writes {writes : List Write} (unique : Unique rows) (lawful : Lawful rows writes)
    (own : ∀ write ∈ writes, ∃ statement ∈ operation.writing, statement.Permits now write) :
    Reaches notificationsAccess.act (Access.By operation.connection) rows
      (applyWrites rows writes) := by
  induction writes generalizing rows with
  | nil => exact Reaches.refl _
  | cons write writes ih =>
    have first := reaches_write unique lawful (own write List.mem_cons_self)
    have rest := ih (unique_applyWrite unique lawful) (lawful_applyWrite lawful)
      (fun write member => own write (List.mem_cons_of_mem _ member))
    exact first.trans rest

/-- The connection of an operation that has committed. -/
def Committed (store : Store) (who : Connection) : Prop :=
  ∃ sid operation answer, store.outcomes sid = some (operation, .committed answer) ∧
    who = operation.connection

/-- What a step does to the table, the connection of a committed operation may do. -/
theorem reaches_step {action : Action} (regular : Regular initial store)
    (stepped : store.step action = some after) :
    Reaches notificationsAccess.act (fun _ act => after.Committed act.1) store.rows after.rows := by
  cases moves_of_step stepped with
  | @commit sid session answer found at_ =>
    have consistent := regular.sound.consistent
    obtain ⟨acts, run⟩ := reaches_writes consistent.unique (consistent.lawful sid)
      (regular.writing sid session found).held
    refine ⟨acts, run.weaken ?_⟩
    intro rows act isBy
    exact ⟨sid, session.operation, answer, by simp [close], isBy⟩
  | _ => exact Reaches.refl _

/-- What a run does to the table, the connections of committed operations may do. -/
theorem reaches_run {table : Notifications} (reached : Reachable table store) :
    Reaches notificationsAccess.act (fun _ act => store.Committed act.1) table.rows
      store.rows := by
  have keeps : ∀ before action after, (Regular table.rows before ∧
      Reaches notificationsAccess.act (fun _ act => before.Committed act.1) table.rows
        before.rows) → anyStep before action → before.step action = some after →
      Regular table.rows after ∧
        Reaches notificationsAccess.act (fun _ act => after.Committed act.1) table.rows
          after.rows := by
    rintro before action after ⟨regular, acts, run⟩ _ stepped
    refine ⟨regular_step regular stepped, Reaches.trans ⟨acts, run.weaken ?_⟩
      (reaches_step regular stepped)⟩
    rintro rows act ⟨sid, operation, answer, ended, same⟩
    exact ⟨sid, operation, answer, outcomes_kept regular.sound stepped ended, same⟩
  exact (Reaches.invariant reached keeps
    ⟨⟨start_sound table, rfl, start_writing table.rows⟩, Reaches.refl _⟩).2

/-- Every session of a reachable database is within its grants. -/
theorem Reachable.granted {table : Notifications} (reached : Reachable table store) :
    ∀ sid session, store.sessions sid = some session → session.Granted :=
  Reaches.invariant reached (fun _ _ _ granted _ stepped => granted_step granted stepped)
    (fun _ _ found => by contradiction)

end Store

/-! ## The ledger -/

namespace Intake

variable {serde : Serde} {errorText : SqlxError → String} {intake after : Intake}

/-- The connection that the intake and the retention pass work on. -/
def connection : Connection := { role := .ingest, currentUser := none }

/-- What is recorded, that connection may insert. -/
theorem reaches_record (letter : DeadLetter) :
    Reaches deadLettersAccess.act (Access.By connection) intake.ledger
      (intake.record letter).ledger :=
  Access.reaches_inserts rfl _ fun _ _ => rfl

/-- What a step does to the ledger, that connection may do. -/
theorem reaches_step {action : Action}
    (stepped : step serde errorText intake action = some after) :
    Reaches deadLettersAccess.act (Access.By connection) intake.ledger after.ledger := by
  cases moves_of_step stepped with
  | record busy at_ answered => exact reaches_record _
  | recordLost busy at_ => exact reaches_record _
  | purge => exact Access.reaches_deletes rfl _ fun _ _ _ => rfl
  | _ => exact Reaches.refl _

/-- What a run does to the ledger, the connections of the replicas may do. -/
theorem Reachable.ledger {table : Notifications}
    (reached : Reachable serde errorText table intake) :
    Reaches deadLettersAccess.act (Access.By connection) [] intake.ledger := by
  have keeps : ∀ before action after,
      Reaches deadLettersAccess.act (Access.By connection) [] before.ledger →
      anyStep before action → step serde errorText before action = some after →
      Reaches deadLettersAccess.act (Access.By connection) [] after.ledger :=
    fun _ _ _ run _ stepped => run.trans (reaches_step stepped)
  obtain ⟨actions, run⟩ := reached
  exact run.invariant keeps (Reaches.refl _)

end Intake

/-! ## What every connection is confined to -/

section

variable {recipientId : Uuid} {rows later : List Row} {acts : List (Connection × RowAct Row)}

/-- An inbox keeps what it has while no app connection acts for its recipient. -/
theorem inbox_kept (run : Steps notificationsAccess.act
    (fun _ act => act.1.role = .app → act.1.currentUser ≠ some recipientId) rows acts later) :
    rows.filter (inbox recipientId) <+: later.filter (inbox recipientId) := by
  apply Access.run_adds
  refine run.weaken fun rows act stranger => ?_
  cases role : act.1.role with
  | app => exact Or.inl (clear_of_stranger role (stranger role))
  | ingest => exact Or.inr (adds_of_ingest role)

/-- No inbox grows by what app connections do. -/
theorem inbox_bounded
    (run : Steps notificationsAccess.act (fun _ act => act.1.role = .app) rows acts later) :
    (later.filter (inbox recipientId)).length ≤ (rows.filter (inbox recipientId)).length := by
  apply Access.run_brings
  exact run.weaken fun rows act app => brings_of_app app

/-- App connections that act for others do not touch an inbox. -/
theorem inbox_untouched (run : Steps notificationsAccess.act
    (fun _ act => act.1.role = .app ∧ act.1.currentUser ≠ some recipientId) rows acts later) :
    later.filter (inbox recipientId) = rows.filter (inbox recipientId) := by
  apply Access.run_clear
  exact run.weaken fun rows act stranger => clear_of_stranger stranger.1 stranger.2

end

/-- A connection of a committed operation acts for that operation's caller, if under the app
role. -/
theorem Store.Committed.caller {store : Store} {who : Connection} (committed : store.Committed who)
    {recipientId : Uuid} (acts : who.currentUser = some recipientId) :
    ∃ sid operation answer, store.outcomes sid = some (operation, .committed answer) ∧
      operation.caller = some recipientId := by
  obtain ⟨sid, operation, answer, ended, rfl⟩ := committed
  exact ⟨sid, operation, answer, ended, acts⟩

/-- The service is within the grants and the policies of its two roles, and they confine every
connection. Row by row, the table is what the connections of the committed operations may do, and
the ledger what the intake's may; no session comes to a statement that is refused to it, or without
the setting that its policy reads, and it sees what its connection reaches. Whatever is sent by
whatever connections, an inbox keeps what it has, in its order, while no app connection acts for
its recipient; by app connections alone it does not grow, and by those that act for others it is
not touched at all. On the ledger only the intake's role does anything, and nobody rewrites a
row. -/
theorem grants_confine_every_role (serde : Serde) (errorText : SqlxError → String)
    (table : Notifications) (intake : Intake)
    (reached : Intake.Reachable serde errorText table intake) (recipientId : Uuid) :
    (Reaches notificationsAccess.act (fun _ act => intake.store.Committed act.1) table.rows
        intake.store.rows ∧
      Reaches deadLettersAccess.act (Access.By Intake.connection) [] intake.ledger ∧
      ∀ sid session, intake.store.sessions sid = some session →
        (∀ statement, session.statement? = some statement →
          session.operation.Granted statement session.currentUser) ∧
        ∀ row, intake.store.sees session row =
          notificationsAccess.reaches ⟨session.operation.role, session.currentUser⟩ row) ∧
    ((∀ sid operation answer,
        intake.store.outcomes sid = some (operation, .committed answer) →
        operation.caller ≠ some recipientId) →
      table.rows.filter (inbox recipientId) <+: intake.store.rows.filter (inbox recipientId)) ∧
    (∀ acts later,
      (Steps notificationsAccess.act
          (fun _ act => act.1.role = .app → act.1.currentUser ≠ some recipientId)
          intake.store.rows acts later →
        intake.store.rows.filter (inbox recipientId) <+: later.filter (inbox recipientId)) ∧
      (Steps notificationsAccess.act (fun _ act => act.1.role = .app)
          intake.store.rows acts later →
        (later.filter (inbox recipientId)).length ≤
          (intake.store.rows.filter (inbox recipientId)).length) ∧
      (Steps notificationsAccess.act
          (fun _ act => act.1.role = .app ∧ act.1.currentUser ≠ some recipientId)
          intake.store.rows acts later →
        later.filter (inbox recipientId) = intake.store.rows.filter (inbox recipientId))) ∧
    ∀ acts later, Steps deadLettersAccess.act anyStep intake.ledger acts later →
      (∀ act ∈ acts, act.1.role = .ingest) ∧
        ∀ letter ∈ later, letter ∈ intake.ledger ∨ ∃ who, (who, RowAct.insert letter) ∈ acts := by
  have database : Store.Reachable table intake.store := Intake.store_reaches reached
  have within := Store.reaches_run database
  refine ⟨⟨within, reached.ledger, ?_⟩, ?_, ?_, ?_⟩
  · intro sid session found
    refine ⟨fun statement at_ => (database.granted sid session found).statement at_, ?_⟩
    intro row
    rw [Store.sees, database.regular.ordinary, Operation.policy_eq]
    rfl
  · intro foreign
    obtain ⟨acts, run⟩ := within
    apply inbox_kept (run.weaken ?_)
    intro rows act committed _ acting
    obtain ⟨sid, operation, answer, ended, isCaller⟩ := committed.caller acting
    exact foreign sid operation answer ended isCaller
  · exact fun acts later => ⟨inbox_kept, inbox_bounded, inbox_untouched⟩
  · intro acts later run
    refine ⟨fun act member => ?_, ?_⟩
    · obtain ⟨privilege, granted⟩ := Access.run_granted run act member
      exact ingest_of_granted granted
    · exact Access.run_changes (run.weaken fun rows act _ => changesNone_deadLetters act.1)

/-- A recipient's connection may delete the recipient's own notification, and not another's; the
other's inbox is what it was. -/
theorem grants_confine_every_role_sample :
    ∃ later, notificationsAccess.act sampleAcked.store.rows
        (⟨.app, some (sampleId 3)⟩, .delete 1) = some later ∧ later.length = 1 ∧
      later.filter (inbox (sampleId 2)) = sampleAcked.store.rows.filter (inbox (sampleId 2)) ∧
      (notificationsAccess.act sampleAcked.store.rows
        (⟨.app, some (sampleId 3)⟩, .delete 0)).isNone = true := by
  have acted : notificationsAccess.act sampleAcked.store.rows
      (⟨.app, some (sampleId 3)⟩, .delete 1) =
        some ((notificationsAccess.act sampleAcked.store.rows
          (⟨.app, some (sampleId 3)⟩, .delete 1)).get (by decide +kernel)) :=
    (Option.some_get _).symm
  have confined := grants_confine_every_role sampleSerde (fun _ => "") .empty sampleAcked
    sampleAcked_reached (sampleId 2)
  refine ⟨_, acted, by decide +kernel, ?_, by decide +kernel⟩
  exact (confined.2.2.1 _ _).2.2 (.next ⟨rfl, by decide⟩ acted (.refl _))

end SvcNotifier
