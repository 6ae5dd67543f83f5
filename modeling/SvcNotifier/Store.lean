import SvcNotifier.Announcement
import SvcNotifier.Library.Runs

/-!
# The database under concurrent sessions

Transactions at PostgreSQL's default READ COMMITTED. Each statement reads the rows committed
when it starts. A writing statement then visits its targets one at a time, in any order: it
waits for another session's uncommitted write on the row or on its dedup key, reads the
version committed by then, re-evaluates its WHERE and policy on it, and locks it by writing.
Uncommitted writes are the row locks. Signals are queued on the session and appended to the
log with the writes, when it commits. A session may be rolled back at any point, which is how
a failing statement, a lost connection, a deadlock and a crash end it.

No transaction of the service runs a second writing statement, so a statement's own writes
are all the writes its session holds.
-/

namespace SvcNotifier

open Library Program

/-- How far a session has come: before its next statement, or within a writing one that has
taken its snapshot and still has targets to visit. -/
inductive Stage where
  /-- Before its next statement. -/
  | ready (body : Tx Ending)
  /-- Within a writing statement, which has yet to visit these targets. -/
  | scanning (statement : Statement) (next : statement.Reply → Tx Ending)
      (snapshot targets : List Row)

/-- An open transaction. -/
structure Session where
  /-- What the transaction was opened for. -/
  operation : Operation
  /-- `now()`, the start of the transaction. -/
  now : DateTime
  /-- `app.current_user_id`. -/
  currentUser : Option Uuid
  /-- The statements that have returned. -/
  executed : List Statement
  /-- The signals it will announce. -/
  queued : List NotificationSignal
  /-- How far it has come. -/
  stage : Stage

/-- How a transaction ended. -/
inductive Outcome where
  /-- It committed, with an answer. -/
  | committed (answer : Except EdgeError Answer)
  /-- It was rolled back, by itself or by a failure. -/
  | rolledBack

/-- The database, with what its sessions hold. `history` records every committed write. -/
structure Store where
  /-- The row-level security in force, for the role each operation connects as. -/
  policies : Operation → Policy
  /-- The committed table. -/
  rows : List Row
  /-- The signals that have been announced. -/
  log : List NotificationSignal
  /-- Every committed write, the oldest first. -/
  history : List Write
  /-- Uncommitted writes, each with the session that holds it. -/
  held : List (Nat × Write)
  /-- The open transactions. -/
  sessions : Nat → Option Session
  /-- How the others ended. -/
  outcomes : Nat → Option (Operation × Outcome)

namespace Session

/-- A transaction just opened. -/
def start (operation : Operation) (now : DateTime) : Session :=
  { operation := operation, now := now, currentUser := none, executed := [], queued := [],
    stage := .ready operation.body }

/-- The session once a statement has returned. -/
def resume (session : Session) (statement : Statement) (body : Tx Ending) : Session :=
  { session with
    currentUser := match statement with
      | .setConfig userId => some userId
      | _ => session.currentUser
    executed := session.executed ++ [statement]
    queued := queueSignals session.queued statement.payloads
    stage := .ready body }

end Session

namespace Store

/-- A database with a table and no open transaction, nothing announced yet. -/
def start (rows : List Row) : Store :=
  { policies := Operation.policy, rows := rows, log := [], history := rows.map .insert, held := [],
    sessions := fun _ => none, outcomes := fun _ => none }

/-- The rows the policy of the session's role lets it reach. -/
def sees (store : Store) (session : Session) (row : Row) : Bool :=
  store.policies session.operation session.currentUser row

/-- The writes a session holds. -/
def heldBy (store : Store) (sid : Nat) : List Write :=
  (store.held.filter fun lock => lock.1 == sid).map Prod.snd

/-- Another session holds a write on the row or on its dedup key. -/
def blocked (store : Store) (sid : Nat) (target : Row) : Bool :=
  store.held.any fun lock =>
    lock.1 != sid && (lock.2.id == target.id || lock.2.key == target.key)

/-- The identifier has been used by a write, committed or not. Minted identifiers are assumed
fresh; inserting a used one is PostgreSQL's primary-key violation while its row is there. -/
def used (store : Store) (id : Uuid) : Bool :=
  store.history.any (fun write => write.id == id) ||
    store.held.any fun lock => lock.2.id == id

/-- `ON CONFLICT (source_event_id, recipient_id)`: the key is taken by a committed row or by one
this session has inserted. -/
def conflicts (store : Store) (sid : Nat) (target : Row) : Bool :=
  store.rows.any (fun row => row.key == target.key) ||
    (store.heldBy sid).any fun write => write.key == target.key

/-- What visiting a target writes, when no other session stands in the way: nothing where the
INSERT conflicts, where the session has written the row itself, or where the committed version
is gone or no longer selected. `none` is an error of the statement. -/
def writesAt (store : Store) (sid : Nat) (session : Session) (statement : Statement)
    (target : Row) : Option (List Write) :=
  match statement with
  | .insert .. =>
    if store.conflicts sid target then some []
    else if store.used target.id then none
    else some [.insert target]
  | _ => match store.rows.find? fun row => row.id == target.id with
    | none => some []
    | some current =>
      if (store.heldBy sid).any fun write => write.id == target.id then some []
      else if store.sees session current && statement.selects current then
        some [statement.write session.now current]
      else some []

/-- Replace a session. -/
def put (store : Store) (sid : Nat) (session : Session) : Store :=
  { store with sessions := Function.update store.sessions sid (some session) }

/-- A session makes writes and holds them. -/
def lock (store : Store) (sid : Nat) (writes : List Write) : Store :=
  { store with held := store.held ++ writes.map fun write => (sid, write) }

/-- Close a session: its locks are released and its outcome recorded. -/
def close (store : Store) (sid : Nat) (operation : Operation) (outcome : Outcome) : Store :=
  { store with
    held := store.held.filter fun lock => lock.1 != sid
    sessions := Function.update store.sessions sid none
    outcomes := Function.update store.outcomes sid (some (operation, outcome)) }

/-- Apply what a session holds and append the signals it queued. -/
def publish (store : Store) (sid : Nat) (queued : List NotificationSignal) : Store :=
  { store with
    rows := applyWrites store.rows (store.heldBy sid)
    log := store.log ++ queued
    history := store.history ++ store.heldBy sid }

/-- What a session, or PostgreSQL for it, does next. -/
inductive Action where
  /-- A function opens a transaction. -/
  | begin (sid : Nat) (operation : Operation) (now : DateTime)
  /-- The session starts its next statement. -/
  | advance (sid : Nat)
  /-- A writing statement visits one of its remaining targets. -/
  | visit (sid index : Nat)
  /-- A writing statement that has visited all its targets returns. -/
  | finish (sid : Nat)
  /-- The transaction commits. -/
  | commit (sid : Nat)
  /-- The transaction is rolled back, by the function or by a failure. -/
  | rollback (sid : Nat)

/-- One step of the database. -/
def step (store : Store) : Action → Option Store
  | .begin sid operation now =>
    if (store.sessions sid).isNone && (store.outcomes sid).isNone then
      some (store.put sid (.start operation now))
    else none
  | .advance sid => match store.sessions sid with
    | none => none
    | some session => match session.stage with
      | .ready (.call statement next) =>
        let snapshot := store.rows.filter (store.sees session)
        if statement.isWrite then
          some (store.put sid { session with
            stage := .scanning statement next snapshot (statement.targets session.now snapshot) })
        else
          some (store.put sid (session.resume statement (next (statement.reply snapshot []))))
      | _ => none
  | .visit sid index => match store.sessions sid with
    | none => none
    | some session => match session.stage with
      | .scanning statement next snapshot targets => match targets[index]? with
        | none => none
        | some target =>
          if store.blocked sid target then none
          else match store.writesAt sid session statement target with
            | none => none
            | some writes =>
              some ((store.lock sid writes).put sid { session with
                stage := .scanning statement next snapshot (targets.eraseIdx index) })
      | _ => none
  | .finish sid => match store.sessions sid with
    | none => none
    | some session => match session.stage with
      | .scanning statement next snapshot [] =>
        some (store.put sid
          (session.resume statement (next (statement.reply snapshot (store.heldBy sid)))))
      | _ => none
  | .commit sid => match store.sessions sid with
    | none => none
    | some session => match session.stage with
      | .ready (.done (.commit answer)) =>
        some ((store.publish sid session.queued).close sid session.operation (.committed answer))
      | _ => none
  | .rollback sid => match store.sessions sid with
    | none => none
    | some session => some (store.close sid session.operation .rolledBack)

/-- Everything one step can do, with what it was found doing. -/
inductive Moves (store : Store) : Action → Store → Prop where
  /-- A transaction is opened. -/
  | begin {sid : Nat} {operation : Operation} {now : DateTime}
      (idle : store.sessions sid = none) (unused : store.outcomes sid = none) :
      Moves store (.begin sid operation now) (store.put sid (.start operation now))
  /-- A statement that only reads runs and returns. -/
  | reply {sid : Nat} {session : Session} {statement : Statement}
      {next : statement.Reply → Tx Ending} (found : store.sessions sid = some session)
      (at_ : session.stage = .ready (.call statement next)) (reads : statement.isWrite = false) :
      Moves store (.advance sid) (store.put sid (session.resume statement
        (next (statement.reply (store.rows.filter (store.sees session)) []))))
  /-- A writing statement takes its snapshot. -/
  | scan {sid : Nat} {session : Session} {statement : Statement}
      {next : statement.Reply → Tx Ending} (found : store.sessions sid = some session)
      (at_ : session.stage = .ready (.call statement next)) (writes : statement.isWrite = true) :
      Moves store (.advance sid) (store.put sid { session with
        stage := .scanning statement next (store.rows.filter (store.sees session))
          (statement.targets session.now (store.rows.filter (store.sees session))) })
  /-- It visits a target that nobody else stands on. -/
  | visit {sid index : Nat} {session : Session} {statement : Statement}
      {next : statement.Reply → Tx Ending} {snapshot targets : List Row} {target : Row}
      {writes : List Write} (found : store.sessions sid = some session)
      (at_ : session.stage = .scanning statement next snapshot targets)
      (aimed : targets[index]? = some target) (free : store.blocked sid target = false)
      (written : store.writesAt sid session statement target = some writes) :
      Moves store (.visit sid index)
        ((store.lock sid writes).put sid { session with
          stage := .scanning statement next snapshot (targets.eraseIdx index) })
  /-- It has visited all of them, and returns. -/
  | finish {sid : Nat} {session : Session} {statement : Statement}
      {next : statement.Reply → Tx Ending} {snapshot : List Row}
      (found : store.sessions sid = some session)
      (at_ : session.stage = .scanning statement next snapshot []) :
      Moves store (.finish sid) (store.put sid (session.resume statement
        (next (statement.reply snapshot (store.heldBy sid)))))
  /-- The writes are applied and announced. -/
  | commit {sid : Nat} {session : Session} {answer : Except EdgeError Answer}
      (found : store.sessions sid = some session)
      (at_ : session.stage = .ready (.done (.commit answer))) :
      Moves store (.commit sid)
        ((store.publish sid session.queued).close sid session.operation (.committed answer))
  /-- The writes are forgotten. -/
  | rollback {sid : Nat} {session : Session} (found : store.sessions sid = some session) :
      Moves store (.rollback sid) (store.close sid session.operation .rolledBack)

/-- A step does one of these things. -/
theorem moves_of_step {store after : Store} {action : Action}
    (stepped : store.step action = some after) : store.Moves action after := by
  cases action with
  | begin sid operation now =>
    simp only [step] at stepped
    split at stepped
    · rename_i free
      simp only [Bool.and_eq_true, Option.isNone_iff_eq_none] at free
      obtain rfl := Option.some.inj stepped
      exact .begin free.1 free.2
    · contradiction
  | advance sid =>
    simp only [step] at stepped
    split at stepped
    · contradiction
    · rename_i session found
      split at stepped
      · rename_i statement next at_
        split at stepped
        · rename_i writes
          obtain rfl := Option.some.inj stepped
          exact .scan found at_ writes
        · rename_i reads
          obtain rfl := Option.some.inj stepped
          exact .reply found at_ (Bool.eq_false_iff.mpr reads)
      · contradiction
  | visit sid index =>
    simp only [step] at stepped
    split at stepped
    · contradiction
    · rename_i session found
      split at stepped
      · rename_i statement next snapshot targets at_
        split at stepped
        · contradiction
        · rename_i target aimed
          split at stepped
          · contradiction
          · rename_i free
            split at stepped
            · contradiction
            · rename_i writes written
              obtain rfl := Option.some.inj stepped
              exact .visit found at_ aimed (Bool.eq_false_iff.mpr free) written
      · contradiction
  | finish sid =>
    simp only [step] at stepped
    split at stepped
    · contradiction
    · rename_i session found
      split at stepped
      · rename_i statement next snapshot at_
        obtain rfl := Option.some.inj stepped
        exact .finish found at_
      · contradiction
  | commit sid =>
    simp only [step] at stepped
    split at stepped
    · contradiction
    · rename_i session found
      split at stepped
      · rename_i answer at_
        obtain rfl := Option.some.inj stepped
        exact .commit found at_
      · contradiction
  | rollback sid =>
    simp only [step] at stepped
    split at stepped
    · contradiction
    · rename_i session found
      obtain rfl := Option.some.inj stepped
      exact .rollback found

/-- No step changes the policies. -/
theorem policies_kept {store after : Store} {action : Action}
    (stepped : store.step action = some after) : after.policies = store.policies := by
  cases moves_of_step stepped <;> rfl

@[simp] theorem put_sessions_self (store : Store) (sid : Nat) (session : Session) :
    (store.put sid session).sessions sid = some session := by
  simp [put]

/-- Replacing a session leaves the others where they were. -/
theorem put_sessions_other (store : Store) {sid other : Nat} (apart : other ≠ sid)
    (session : Session) : (store.put sid session).sessions other = store.sessions other := by
  simp [put, apart]

/-- What a step does with the session that takes it. -/
inductive Turn (store : Store) (action : Action) (sid : Nat) (after : Store) : Prop where
  /-- It opens. -/
  | opens {operation : Operation} {now : DateTime} (asked : action = .begin sid operation now)
      (idle : store.sessions sid = none) (unused : store.outcomes sid = none)
      (found : after.sessions sid = some (.start operation now))
      (none_ : after.outcomes sid = none)
  /-- It goes on with its program. -/
  | goesOn {session later : Session} (found : store.sessions sid = some session)
      (unfailed : ∀ error, session.stage ≠ .ready (.fail error))
      (unreturned : ∀ ending, session.stage ≠ .ready (.done ending))
      (left : after.sessions sid = some later) (same : later.operation = session.operation)
      (kept : after.outcomes sid = store.outcomes sid)
  /-- It commits. -/
  | commits {session : Session} {answer : Except EdgeError Answer} (asked : action = .commit sid)
      (found : store.sessions sid = some session)
      (at_ : session.stage = .ready (.done (.commit answer))) (left : after.sessions sid = none)
      (ended : after.outcomes sid = some (session.operation, .committed answer))
  /-- It is rolled back. -/
  | rollsBack {session : Session} (asked : action = .rollback sid)
      (found : store.sessions sid = some session) (left : after.sessions sid = none)
      (ended : after.outcomes sid = some (session.operation, .rolledBack))

/-- A step is one session's: it leaves the sessions and the outcomes of all others alone. -/
theorem turn_of_step {store after : Store} {action : Action}
    (stepped : store.step action = some after) :
    ∃ sid, store.Turn action sid after ∧ ∀ other, other ≠ sid →
      after.sessions other = store.sessions other ∧
        after.outcomes other = store.outcomes other := by
  have put_ : ∀ (store : Store) (sid : Nat) (session : Session) (other : Nat), other ≠ sid →
      (store.put sid session).sessions other = store.sessions other ∧
        (store.put sid session).outcomes other = store.outcomes other :=
    fun store sid session other apart => ⟨put_sessions_other store apart session, rfl⟩
  have close_ : ∀ (store : Store) (sid : Nat) (operation : Operation) (outcome : Outcome)
      (other : Nat), other ≠ sid →
      (store.close sid operation outcome).sessions other = store.sessions other ∧
        (store.close sid operation outcome).outcomes other = store.outcomes other := by
    intro store sid operation outcome other apart
    simp [close, apart]
  cases moves_of_step stepped with
  | @begin sid operation now idle unused =>
    exact ⟨sid, .opens rfl idle unused (put_sessions_self store sid _) unused,
      put_ store sid _⟩
  | @reply sid session statement next found at_ reads =>
    exact ⟨sid, .goesOn found (by simp [at_]) (by simp [at_])
      (put_sessions_self store sid _) rfl rfl,
      put_ store sid _⟩
  | @scan sid session statement next found at_ writes =>
    exact ⟨sid, .goesOn found (by simp [at_]) (by simp [at_])
      (put_sessions_self store sid _) rfl rfl,
      put_ store sid _⟩
  | @visit sid index session statement next snapshot targets target writes found at_ aimed free
      written =>
    exact ⟨sid, .goesOn found (by simp [at_]) (by simp [at_])
      (put_sessions_self (store.lock sid writes) sid _) rfl rfl,
      put_ (store.lock sid writes) sid _⟩
  | @finish sid session statement next snapshot found at_ =>
    exact ⟨sid, .goesOn found (by simp [at_]) (by simp [at_])
      (put_sessions_self store sid _) rfl rfl,
      put_ store sid _⟩
  | @commit sid session answer found at_ =>
    exact ⟨sid, .commits rfl found at_ (by simp [close]) (by simp [close]),
      close_ (store.publish sid session.queued) sid _ _⟩
  | @rollback sid session found =>
    exact ⟨sid, .rollsBack rfl found (by simp [close]) (by simp [close]), close_ store sid _ _⟩

end Store

end SvcNotifier
