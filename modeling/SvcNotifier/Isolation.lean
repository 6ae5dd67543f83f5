import SvcNotifier.Commits
import SvcNotifier.Inbox

/-!
# Nobody's rows but one's own

A recipient's queries and mutations run on the shared database, between and during everything
else that happens there, and yet answer and act as they would on the recipient's inbox alone.
So two runs on tables that agree on the inbox cannot be told apart by its owner, whatever the
other rows are, whatever others do and whatever more the row-level security lets through.
-/

namespace SvcNotifier

open Library Program

/-- A policy that lets a recipient's transactions reach the recipient's own rows. -/
def Admits (recipientId : Uuid) (policies : Operation → Policy) : Prop :=
  ∀ operation, operation.caller = some recipientId →
    ∀ row, row.recipientId = recipientId → policies operation (some recipientId) row = true

/-- A query or mutation that has been answered, with the facts it announced. -/
structure Exchange where
  /-- What was asked for. -/
  operation : Operation
  /-- The start of its transaction. -/
  now : DateTime
  /-- What was answered. -/
  response : Except EdgeError Answer
  /-- The facts that were announced. -/
  announced : List Fact

/-- What was asked, and when. -/
def Exchange.request (exchange : Exchange) : Operation × DateTime :=
  (exchange.operation, exchange.now)

/-- What a session that has run its program to the end answers. -/
def Session.response (session : Session) : Option (Except EdgeError Answer) :=
  match session.stage with
  | .ready (.done (.commit answer)) => some answer
  | .ready (.done (.rollback error)) => some (.error error)
  | .ready (.fail error) => some (.error (dbError error))
  | _ => none

/-- The exchange a session ends with. -/
def Session.exchange (session : Session) (announced : List Fact) : List Exchange :=
  match session.response with
  | some response =>
    [{ operation := session.operation, now := session.now, response := response,
       announced := announced }]
  | none => []

namespace Store

/-- A database with a table under some row-level security. -/
def under (policies : Operation → Policy) (rows : List Row) : Store :=
  { start rows with policies := policies }

/-- The session that takes a step. -/
def Action.sid : Action → Nat
  | .begin sid _ _ => sid
  | .advance sid => sid
  | .visit sid _ => sid
  | .finish sid => sid
  | .commit sid => sid
  | .rollback sid => sid

/-- A step is taken by a transaction of the recipient. -/
def Acts (recipientId : Uuid) (store : Store) (action : Action) : Prop :=
  ∃ session, store.sessions action.sid = some session ∧
    session.operation.caller = some recipientId

/-- The exchange a step ends, if it ends one of the recipient's. -/
def exchanged (recipientId : Uuid) (store : Store) (action : Action) : List Exchange :=
  match store.sessions action.sid with
  | none => []
  | some session =>
    if session.operation.caller = some recipientId then
      match action with
      | .commit _ => session.exchange (session.queued.flatMap NotificationSignal.facts)
      | .rollback _ => session.exchange []
      | _ => []
    else []

/-- The exchanges of the recipient in a run. -/
def exchanges (recipientId : Uuid) : Store → List Action → List Exchange
  | _, [] => []
  | store, action :: actions => match store.step action with
    | some after => store.exchanged recipientId action ++ exchanges recipientId after actions
    | none => []

/-- The recipient asks one thing after the other, and is answered by the functions themselves:
no failure from outside ends the recipient's transactions. Everybody else does anything, except
that nobody fans a notification out to the recipient. -/
def Served (recipientId : Uuid) (store : Store) : Action → Prop
  | .begin _ operation _ =>
    (operation.caller = some recipientId → ∀ sid session, store.sessions sid = some session →
      session.operation.caller ≠ some recipientId) ∧
    ∀ nowV7 command, operation = .fanOut nowV7 command → recipientId ∉ command.recipientIds
  | .rollback sid => ∀ session, store.sessions sid = some session →
      session.operation.caller = some recipientId → session.response.isSome = true ∧
        ∀ answer, session.stage ≠ .ready (.done (.commit answer))
  | _ => True

/-- How far a recipient's transaction has come, told from the inbox it began with. -/
def Serving (recipientId : Uuid) (inbox : List Row) (store : Store) (sid : Nat)
    (session : Session) : Prop :=
  (session.executed ≠ [] → session.currentUser = some recipientId) ∧
  match session.stage with
  | .ready body =>
    Meets (Inbox.contract recipientId session.now inbox)
      (Inbox.Serves session.now inbox session.operation)
      (Inbox.Fails session.now inbox session.operation) body
      ⟨session.executed, store.heldBy sid, session.queued⟩
  | .scanning statement next snapshot targets =>
    Inbox.Asks recipientId statement ∧ session.executed ≠ [] ∧
    Inbox.Mirrors recipientId inbox snapshot ∧ (snapshot.map Row.id).Nodup ∧
    (∀ target ∈ targets, target ∈ inbox ∧ statement.selects target = true) ∧
    (store.heldBy sid ++ targets.map (statement.write session.now)).Perm
      (Inbox.made session.now inbox statement) ∧
    ∀ writes, writes.Perm (Inbox.made session.now inbox statement) →
      Meets (Inbox.contract recipientId session.now inbox)
        (Inbox.Serves session.now inbox session.operation)
        (Inbox.Fails session.now inbox session.operation)
        (next (statement.reply snapshot writes))
        ⟨session.executed ++ [statement], writes, queueSignals session.queued statement.payloads⟩

/-- The recipient's part of the database is the inbox, with at most one transaction on it. -/
structure Standing (recipientId : Uuid) (inbox : List Row) (store : Store) : Prop where
  /-- The inbox is one of the recipient. -/
  of : Inbox.Of recipientId inbox
  /-- It is what the table has of them. -/
  mirrors : Inbox.Mirrors recipientId inbox store.rows
  /-- The policies let them reach their own rows. -/
  admits : Admits recipientId store.policies
  /-- The recipient has one transaction open at most. -/
  alone : ∀ sid sid' session session', store.sessions sid = some session →
    store.sessions sid' = some session' → session.operation.caller = some recipientId →
    session'.operation.caller = some recipientId → sid = sid'
  /-- Nobody is fanning out to the recipient. -/
  quiet : ∀ sid session nowV7 command, store.sessions sid = some session →
    session.operation = .fanOut nowV7 command → recipientId ∉ command.recipientIds
  /-- Their transaction serves the inbox that it began with. -/
  serving : ∀ sid session, store.sessions sid = some session →
    session.operation.caller = some recipientId → Serving recipientId inbox store sid session

variable {recipientId : Uuid} {inbox initial : List Row} {store after : Store} {sid : Nat}
  {session : Session}

/-- What a statement of a recipient's transaction sees of the recipient is the inbox. -/
theorem Standing.snapshot (standing : Standing recipientId inbox store)
    (consistent : store.Consistent) (caller : session.operation.caller = some recipientId)
    (acting : session.currentUser = some recipientId) :
    Inbox.Mirrors recipientId inbox (store.rows.filter (store.sees session)) ∧
      ((store.rows.filter (store.sees session)).map Row.id).Nodup := by
  constructor
  · intro row
    rw [standing.mirrors row, List.mem_filter]
    constructor
    · rintro ⟨member, own⟩
      have reached : store.sees session row = true := by
        rw [sees, acting]
        exact standing.admits session.operation caller row own
      exact ⟨⟨member, reached⟩, own⟩
    · rintro ⟨⟨member, -⟩, own⟩
      exact ⟨member, own⟩
  · exact (List.filter_sublist.map Row.id).nodup consistent.unique.ids

/-- A statement that asks for the recipient's rows selects no others. -/
theorem owner_of_selects {statement : Statement} {row : Row}
    (asks : Inbox.Asks recipientId statement) (selected : statement.selects row = true) :
    row.recipientId = recipientId := by
  cases statement with
  | markRead id owner =>
    simp only [Statement.selects, Bool.and_eq_true, beq_iff_eq] at selected
    exact selected.1.2.trans asks
  | markAllRead readAt owner =>
    simp only [Statement.selects, Bool.and_eq_true, beq_iff_eq] at selected
    exact selected.2.trans asks
  | delete ids owner =>
    simp only [Statement.selects, Bool.and_eq_true, beq_iff_eq] at selected
    exact selected.2.trans asks
  | _ => simp [Statement.selects] at selected

/-! ## A step of the recipient's transaction -/

/-- A session's standing depends only on what it holds itself. -/
theorem Serving.congr (serving : Serving recipientId inbox store sid session)
    (same : after.heldBy sid = store.heldBy sid) : Serving recipientId inbox after sid session := by
  unfold Serving at *
  rw [same]
  exact serving

/-- A transaction just opened serves the inbox. -/
theorem serving_start {operation : Operation} (now : DateTime)
    (own : operation.caller = some recipientId) (of : Inbox.Of recipientId inbox)
    (idle : store.heldBy sid = []) :
    Serving recipientId inbox store sid (.start operation now) := by
  refine ⟨fun ran => absurd rfl ran, ?_⟩
  show Meets _ _ _ operation.body (Progress.mk [] (store.heldBy sid) [])
  rw [idle]
  exact Inbox.operation_meets own of

/-- A transaction that has run a statement acts for its recipient. -/
theorem Serving.acting {statement : Statement} {body : Tx Ending}
    (serving : Serving recipientId inbox store sid session)
    (asks : Inbox.Asks recipientId statement)
    (first : session.executed = [] → statement = .setConfig recipientId) :
    (session.resume statement body).currentUser = some recipientId := by
  by_cases ran : session.executed = []
  · rw [first ran]
    rfl
  · have before := serving.1 ran
    cases statement with
    | setConfig userId => exact congrArg some asks
    | _ => exact before

/-- A statement that reads is served from the inbox. -/
theorem Serving.reply {statement : Statement} {next : statement.Reply → Tx Ending}
    (serving : Serving recipientId inbox store sid session)
    (standing : Standing recipientId inbox store) (consistent : store.Consistent)
    (caller : session.operation.caller = some recipientId)
    (at_ : session.stage = .ready (.call statement next)) (reads : statement.isWrite = false) :
    Serving recipientId inbox store sid (session.resume statement
      (next (statement.reply (store.rows.filter (store.sees session)) []))) := by
  have owes := serving.2
  rw [at_] at owes
  obtain ⟨⟨asks, first, -⟩, later⟩ := owes
  refine ⟨fun _ => serving.acting asks first, ?_⟩
  have made_ :
      [].Perm (if statement.isWrite then Inbox.made session.now inbox statement else []) := by
    rw [reads]
    exact List.Perm.refl []
  show Meets _ _ _ _ (Progress.mk (session.executed ++ [statement]) (store.heldBy sid) _)
  rw [← List.append_nil (store.heldBy sid)]
  by_cases ran : session.executed = []
  · -- The first statement sets the caller; its reply tells nothing of the table.
    obtain rfl := first ran
    exact later _ _ ⟨store.rows, [], standing.mirrors, consistent.unique.ids, made_, rfl, rfl⟩
  · obtain ⟨mirrors, ids⟩ := standing.snapshot consistent caller (serving.1 ran)
    exact later _ _ ⟨store.rows.filter (store.sees session), [], mirrors, ids, made_, rfl, rfl⟩

/-- A writing statement starts on what the inbox has for it. -/
theorem Serving.scan {statement : Statement} {next : statement.Reply → Tx Ending}
    (serving : Serving recipientId inbox store sid session)
    (standing : Standing recipientId inbox store) (consistent : store.Consistent)
    (caller : session.operation.caller = some recipientId)
    (at_ : session.stage = .ready (.call statement next)) (writes : statement.isWrite = true) :
    Serving recipientId inbox store sid { session with
      stage := .scanning statement next (store.rows.filter (store.sees session))
        (statement.targets session.now (store.rows.filter (store.sees session))) } := by
  have owes := serving.2
  rw [at_] at owes
  obtain ⟨⟨asks, first, clean⟩, later⟩ := owes
  have ran : session.executed ≠ [] := by
    intro nothing
    rw [first nothing] at writes
    contradiction
  obtain ⟨mirrors, ids⟩ := standing.snapshot consistent caller (serving.1 ran)
  have targets : statement.targets session.now (store.rows.filter (store.sees session)) =
      (store.rows.filter (store.sees session)).filter statement.selects := by
    cases statement with
    | insert => exact absurd asks id
    | _ => rfl
  have aimed : ((store.rows.filter (store.sees session)).filter statement.selects).Perm
      (inbox.filter statement.selects) :=
    mirrors.filter_perm standing.of ids _ _ (fun _ _ => rfl)
      fun row selected => owner_of_selects asks selected
  refine ⟨serving.1, asks, ran, mirrors, ids, ?_, ?_, ?_⟩
  · intro target member
    rw [targets] at member
    exact List.mem_filter.mp (aimed.mem_iff.mp member)
  · show (store.heldBy sid ++ _).Perm _
    have unwritten : store.heldBy sid = [] := clean writes
    rw [unwritten, targets, List.nil_append]
    exact aimed.map _
  · intro written made_
    have unwritten : store.heldBy sid = [] := clean writes
    refine later _ _ ⟨_, written, mirrors, ids, ?_, rfl, ?_⟩
    · rw [if_pos writes]
      exact made_
    · show _ = Progress.mk _ (store.heldBy sid ++ written) _
      rw [unwritten, List.nil_append]

/-- What a writing statement has still to visit is still in the table, and it writes there. -/
theorem Serving.visit {statement : Statement} {next : statement.Reply → Tx Ending}
    {snapshot targets : List Row} {target : Row} {index : Nat} {written : List Write}
    (serving : Serving recipientId inbox store sid session)
    (standing : Standing recipientId inbox store) (consistent : store.Consistent)
    (caller : session.operation.caller = some recipientId)
    (at_ : session.stage = .scanning statement next snapshot targets)
    (aimed : targets[index]? = some target)
    (wrote : store.writesAt sid session statement target = some written) :
    Serving recipientId inbox (store.lock sid written) sid { session with
      stage := .scanning statement next snapshot (targets.eraseIdx index) } := by
  have owes := serving.2
  rw [at_] at owes
  obtain ⟨asks, ran, mirrors, ids, waiting, split, later⟩ := owes
  have there : target ∈ targets := List.mem_of_getElem? aimed
  have selected := (waiting target there).2
  have present : target ∈ store.rows := ((standing.mirrors target).mp (waiting target there).1).1
  have own : target.recipientId = recipientId :=
    ((standing.mirrors target).mp (waiting target there).1).2
  have order : targets.Perm (target :: targets.eraseIdx index) := by
    obtain ⟨inside, here⟩ := List.getElem?_eq_some_iff.mp aimed
    exact here ▸ (List.getElem_cons_eraseIdx_perm inside).symm
  have named : (statement.write session.now target).id = target.id :=
    congrArg Row.id (lawful_write session.now present selected).2
  -- No write of this statement is on the target yet: each row is written on once.
  have untouched : target.id ∉ (store.heldBy sid).map Write.id := by
    intro touched
    have distinct : ((store.heldBy sid ++ targets.map (statement.write session.now)).map
        Write.id).Nodup := by
      rw [(split.map Write.id).nodup_iff]
      have made_ids : (Inbox.made session.now inbox statement).map Write.id =
          (inbox.filter statement.selects).map Row.id := by
        rw [Inbox.made, List.map_map]
        refine List.map_congr_left fun row member => ?_
        rw [List.mem_filter] at member
        exact congrArg Row.id (lawful_write session.now member.1 member.2).2
      rw [made_ids]
      exact (List.filter_sublist.map Row.id).nodup standing.of.unique.ids
    rw [List.map_append, List.nodup_append] at distinct
    have again : target.id ∈ (targets.map (statement.write session.now)).map Write.id :=
      named ▸ List.mem_map_of_mem (List.mem_map_of_mem there)
    exact distinct.2.2 _ touched _ again rfl
  have current : store.rows.find? (fun row => row.id == target.id) = some target := by
    cases found : store.rows.find? (fun row => row.id == target.id) with
    | none =>
      rw [List.find?_eq_none] at found
      exact absurd (found target present) (by simp)
    | some other =>
      have same : other.id = target.id := by simpa using List.find?_some found
      rw [consistent.unique.eq_of_id (List.mem_of_find?_eq_some found) present same]
  have reached : store.sees session target = true := by
    rw [sees, serving.1 ran]
    exact standing.admits session.operation caller target own
  have writes : written = [statement.write session.now target] := by
    have free : (store.heldBy sid).any (fun write => write.id == target.id) = false := by
      rw [List.any_eq_false]
      intro write member same
      exact untouched (eq_of_beq same ▸ List.mem_map_of_mem member)
    cases statement with
    | insert => exact absurd asks id
    | _ =>
      simp only [writesAt, current, free, reached, selected] at wrote
      exact (Option.some.inj wrote).symm
  refine ⟨serving.1, asks, ran, mirrors, ids, ?_, ?_, later⟩
  · intro other member
    exact waiting other (List.mem_of_mem_eraseIdx member)
  · rw [heldBy_lock_self, writes, List.append_assoc]
    refine List.Perm.trans (List.Perm.append_left _ ?_) split
    exact (order.map (statement.write session.now)).symm

/-- A writing statement that has visited all its targets has made the inbox's writes. -/
theorem Serving.finish {statement : Statement} {next : statement.Reply → Tx Ending}
    {snapshot : List Row} (serving : Serving recipientId inbox store sid session)
    (at_ : session.stage = .scanning statement next snapshot []) :
    Serving recipientId inbox store sid (session.resume statement
      (next (statement.reply snapshot (store.heldBy sid)))) := by
  have owes := serving.2
  rw [at_] at owes
  obtain ⟨asks, ran, -, -, -, split, later⟩ := owes
  rw [List.map_nil, List.append_nil] at split
  refine ⟨fun _ => serving.acting asks fun nothing => absurd nothing ran, ?_⟩
  exact later (store.heldBy sid) split

/-! ## A step of anybody's transaction -/

/-- A step that only moves one session on leaves the recipient's part as it stands. -/
theorem Standing.goesOn {later : Session} (standing : Standing recipientId inbox store)
    (found : store.sessions sid = some session) (left : after.sessions sid = some later)
    (same : later.operation = session.operation)
    (others : ∀ other, other ≠ sid →
      after.sessions other = store.sessions other ∧ after.heldBy other = store.heldBy other)
    (rows : after.rows = store.rows) (policies : after.policies = store.policies)
    (own : session.operation.caller = some recipientId →
      Serving recipientId inbox after sid later) : Standing recipientId inbox after := by
  -- Every session after the step stands for one before it, of the same operation.
  have before : ∀ other session', after.sessions other = some session' →
      ∃ session, store.sessions other = some session ∧
        session'.operation = session.operation := by
    intro other session' found'
    by_cases here : other = sid
    · subst here
      obtain rfl := Option.some.inj (left.symm.trans found')
      exact ⟨session, found, same⟩
    · rw [(others other here).1] at found'
      exact ⟨session', found', rfl⟩
  refine ⟨standing.of, rows ▸ standing.mirrors, policies ▸ standing.admits, ?_, ?_, ?_⟩
  · intro left right session₁ session₂ found₁ found₂ caller₁ caller₂
    obtain ⟨was₁, there₁, same₁⟩ := before left session₁ found₁
    obtain ⟨was₂, there₂, same₂⟩ := before right session₂ found₂
    exact standing.alone left right was₁ was₂ there₁ there₂ (same₁ ▸ caller₁) (same₂ ▸ caller₂)
  · intro other session' nowV7 command found' fans
    obtain ⟨was, there, same'⟩ := before other session' found'
    exact standing.quiet other was nowV7 command there (same' ▸ fans)
  · intro other session' found' caller
    by_cases here : other = sid
    · subst here
      obtain rfl := Option.some.inj (left.symm.trans found')
      exact own (same ▸ caller)
    · obtain ⟨sessions, held⟩ := others other here
      rw [sessions] at found'
      exact (standing.serving other session' found' caller).congr held

/-- A step that closes a session leaves the recipient's part as it stands, on the inbox it
leaves. -/
theorem Standing.closes {inbox' : List Row} (standing : Standing recipientId inbox store)
    (left : after.sessions sid = none)
    (others : ∀ other, other ≠ sid →
      after.sessions other = store.sessions other ∧ after.heldBy other = store.heldBy other)
    (policies : after.policies = store.policies) (of : Inbox.Of recipientId inbox')
    (mirrors : Inbox.Mirrors recipientId inbox' after.rows)
    (still : ∀ other session, other ≠ sid → store.sessions other = some session →
      session.operation.caller = some recipientId → inbox' = inbox) :
    Standing recipientId inbox' after := by
  have before : ∀ other session, after.sessions other = some session →
      other ≠ sid ∧ store.sessions other = some session := by
    intro other session found
    have apart : other ≠ sid := by
      rintro rfl
      rw [left] at found
      contradiction
    exact ⟨apart, (others other apart).1 ▸ found⟩
  refine ⟨of, mirrors, policies ▸ standing.admits, ?_, ?_, ?_⟩
  · intro first second session₁ session₂ found₁ found₂ caller₁ caller₂
    exact standing.alone first second session₁ session₂ (before first session₁ found₁).2
      (before second session₂ found₂).2 caller₁ caller₂
  · intro other session nowV7 command found fans
    exact standing.quiet other session nowV7 command (before other session found).2 fans
  · intro other session found caller
    obtain ⟨apart, found'⟩ := before other session found
    rw [still other session apart found' caller]
    exact (standing.serving other session found' caller).congr (others other apart).2

/-- What others hold when they commit is on rows of others. -/
theorem Standing.foreign {answer : Except EdgeError Answer}
    (standing : Standing recipientId inbox store) (sound : Sound initial store)
    (found : store.sessions sid = some session)
    (at_ : session.stage = .ready (.done (.commit answer)))
    (caller : session.operation.caller ≠ some recipientId) :
    ∀ write ∈ store.heldBy sid, write.row.recipientId ≠ recipientId := by
  intro write member own
  obtain ⟨statement, writing, permitted⟩ := (sound.verified.at_commit found at_).1.made write member
  rcases Operation.owner_of_permits writing permitted with asked | ⟨nowV7, command, fans, named⟩
  · exact caller (own ▸ asked)
  · exact standing.quiet sid session nowV7 command found fans (own ▸ named)

/-- Closing a session leaves the others where they were. -/
theorem close_others (store : Store) (sid : Nat) (operation : Operation) (outcome : Outcome) :
    ∀ other, other ≠ sid →
      (store.close sid operation outcome).sessions other = store.sessions other ∧
        (store.close sid operation outcome).heldBy other = store.heldBy other := by
  intro other apart
  exact ⟨by simp [close, apart], heldBy_close store apart operation outcome⟩

end Store

/-- Exchanges are what an inbox, taken through them, answers and announces; `final` is the inbox
after them. -/
def Inbox.Explains (inbox : List Row) (exchanges : List Exchange) (final : List Row) : Prop :=
  match exchanges with
  | [] => final = inbox
  | exchange :: rest =>
    Inbox.answer inbox exchange.operation = some exchange.response ∧
    exchange.announced.Perm
      ((Inbox.writes exchange.now inbox exchange.operation).map Write.fact) ∧
    Inbox.Explains (applyWrites inbox (Inbox.writes exchange.now inbox exchange.operation)) rest
      final

/-- Exchanges in sequence. -/
theorem Inbox.Explains.append {inbox middle final : List Row} {first second : List Exchange}
    (one : Inbox.Explains inbox first middle) (two : Inbox.Explains middle second final) :
    Inbox.Explains inbox (first ++ second) final := by
  induction first generalizing inbox with
  | nil =>
    obtain rfl : middle = inbox := one
    exact two
  | cons exchange rest ih => exact ⟨one.1, one.2.1, ih one.2.2⟩

namespace Store

variable {recipientId : Uuid} {inbox initial : List Row} {store after : Store} {sid : Nat}
  {session : Session}

/-- Closing a session of somebody else exchanges nothing with the recipient. -/
theorem exchanged_foreign (action : Action) (found : store.sessions action.sid = some session)
    (caller : session.operation.caller ≠ some recipientId) :
    store.exchanged recipientId action = [] := by
  rw [exchanged, found]
  exact if_neg caller

/-- A commit takes the inbox through the exchange it ends. -/
theorem Standing.commit {answer : Except EdgeError Answer}
    (standing : Standing recipientId inbox store) (sound : Sound initial store)
    (found : store.sessions sid = some session)
    (at_ : session.stage = .ready (.done (.commit answer))) :
    ∃ inbox', Inbox.Explains inbox (store.exchanged recipientId (.commit sid)) inbox' ∧
      Standing recipientId inbox'
        ((store.publish sid session.queued).close sid session.operation (.committed answer)) := by
  have lawful := sound.consistent.lawful sid
  have left : ((store.publish sid session.queued).close sid session.operation
      (.committed answer)).sessions sid = none := by simp [close]
  have others := close_others (store.publish sid session.queued) sid session.operation
    (.committed answer)
  by_cases caller : session.operation.caller = some recipientId
  · have owes := (standing.serving sid session found caller).2
    rw [at_] at owes
    obtain ⟨answered, made_⟩ := owes
    have settled := sound.verified.at_commit found at_
    have mirrors := standing.mirrors.own standing.of sound.consistent.unique lawful made_
    refine ⟨applyWrites inbox (Inbox.writes session.now inbox session.operation), ?_, ?_⟩
    · have exchange : store.exchanged recipientId (.commit sid) =
          [⟨session.operation, session.now, answer,
            session.queued.flatMap NotificationSignal.facts⟩] := by
        simp [exchanged, Action.sid, found, caller, Session.exchange, Session.response, at_]
      rw [exchange]
      refine ⟨answered, ?_, rfl⟩
      rw [settled.1.announces.facts]
      exact made_.map Write.fact
    · refine standing.closes left others rfl (standing.of.after _ _ mirrors) mirrors ?_
      intro other session' apart found' caller'
      exact absurd (standing.alone other sid session' session found' found caller' caller) apart
  · refine ⟨inbox, ?_, ?_⟩
    · rw [exchanged_foreign (.commit sid) found caller]
      rfl
    · exact standing.closes left others rfl standing.of
        (standing.mirrors.foreign sound.consistent.unique lawful
          (standing.foreign sound found at_ caller)) fun _ _ _ _ _ => rfl

/-- A rollback leaves the inbox as it is, and ends an exchange with a refusal. -/
theorem Standing.rollback (standing : Standing recipientId inbox store)
    (served : Served recipientId store (.rollback sid))
    (found : store.sessions sid = some session) :
    ∃ inbox', Inbox.Explains inbox (store.exchanged recipientId (.rollback sid)) inbox' ∧
      Standing recipientId inbox' (store.close sid session.operation .rolledBack) := by
  have left : (store.close sid session.operation .rolledBack).sessions sid = none := by
    simp [close]
  refine ⟨inbox, ?_, standing.closes left (close_others store sid _ _) rfl standing.of
    standing.mirrors fun _ _ _ _ _ => rfl⟩
  by_cases caller : session.operation.caller = some recipientId
  · obtain ⟨answers, uncommitted⟩ := served session found caller
    obtain ⟨response, answered⟩ := Option.isSome_iff_exists.mp answers
    have owes := (standing.serving sid session found caller).2
    have spec : Inbox.answer inbox session.operation = some response ∧
        Inbox.writes session.now inbox session.operation = [] := by
      rw [Session.response] at answered
      split at answered
      · rename_i answer at_
        exact absurd at_ (uncommitted answer)
      · rename_i error at_
        rw [at_] at owes
        exact Option.some.inj answered ▸ owes
      · rename_i error at_
        rw [at_] at owes
        exact Option.some.inj answered ▸ owes
      · contradiction
    have exchange : store.exchanged recipientId (.rollback sid) =
        [⟨session.operation, session.now, response, []⟩] := by
      simp [exchanged, Action.sid, found, caller, Session.exchange, answered]
    rw [exchange]
    refine ⟨spec.1, ?_, ?_⟩
    · rw [spec.2]
      exact List.Perm.refl []
    · rw [spec.2]
      rfl
  · rw [exchanged_foreign (.rollback sid) found caller]
    rfl

/-- A transaction that opens finds the recipient's part as it stands. -/
theorem Standing.begins {operation : Operation} {now : DateTime}
    (standing : Standing recipientId inbox store) (consistent : store.Consistent)
    (idle : store.sessions sid = none)
    (served : Served recipientId store (.begin sid operation now)) :
    Standing recipientId inbox (store.put sid (.start operation now)) := by
  have opened : ∀ other session, (store.put sid (.start operation now)).sessions other =
      some session → (other = sid ∧ session = .start operation now) ∨
        (other ≠ sid ∧ store.sessions other = some session) := by
    intro other session found
    by_cases here : other = sid
    · subst here
      rw [put_sessions_self] at found
      exact Or.inl ⟨rfl, (Option.some.inj found).symm⟩
    · rw [put_sessions_other store here] at found
      exact Or.inr ⟨here, found⟩
  refine ⟨standing.of, standing.mirrors, standing.admits, ?_, ?_, ?_⟩
  · intro first second session₁ session₂ found₁ found₂ caller₁ caller₂
    rcases opened first session₁ found₁ with ⟨rfl, rfl⟩ | ⟨-, old₁⟩
    · rcases opened second session₂ found₂ with ⟨rfl, rfl⟩ | ⟨-, old₂⟩
      · rfl
      · exact absurd caller₂ (served.1 caller₁ second session₂ old₂)
    · rcases opened second session₂ found₂ with ⟨rfl, rfl⟩ | ⟨-, old₂⟩
      · exact absurd caller₁ (served.1 caller₂ first session₁ old₁)
      · exact standing.alone first second session₁ session₂ old₁ old₂ caller₁ caller₂
  · intro other session nowV7 command found fans
    rcases opened other session found with ⟨rfl, rfl⟩ | ⟨-, old⟩
    · exact served.2 nowV7 command fans
    · exact standing.quiet other session nowV7 command old fans
  · intro other session found caller
    rcases opened other session found with ⟨rfl, rfl⟩ | ⟨apart, old⟩
    · exact serving_start now caller standing.of (consistent.heldBy_idle idle)
    · exact (standing.serving other session old caller).congr rfl

/-- Every step takes the recipient's inbox through the exchange it ends, if it ends one. -/
theorem standing_step {action : Action} (standing : Standing recipientId inbox store)
    (sound : Sound initial store) (served : Served recipientId store action)
    (stepped : store.step action = some after) :
    ∃ inbox', Inbox.Explains inbox (store.exchanged recipientId action) inbox' ∧
      Standing recipientId inbox' after := by
  have silent : ∀ action : Action, (∀ sid, action ≠ .commit sid) → (∀ sid, action ≠ .rollback sid) →
      Inbox.Explains inbox (store.exchanged recipientId action) inbox := by
    intro action uncommitted unrolled
    have nothing : store.exchanged recipientId action = [] := by
      rw [exchanged]
      split
      · rfl
      · split
        · cases action with
          | commit sid => exact absurd rfl (uncommitted sid)
          | rollback sid => exact absurd rfl (unrolled sid)
          | _ => rfl
        · rfl
    rw [nothing]
    rfl
  have consistent := sound.consistent
  cases moves_of_step stepped with
  | @begin sid operation now idle unused =>
    exact ⟨inbox, silent _ (by simp) (by simp), standing.begins consistent idle served⟩
  | @reply sid session statement next found at_ reads =>
    refine ⟨inbox, silent _ (by simp) (by simp), ?_⟩
    refine standing.goesOn found (put_sessions_self store sid _) rfl
      (fun other apart => put_others store apart _) rfl rfl fun caller => ?_
    exact ((standing.serving sid session found caller).reply standing consistent caller at_
      reads).congr rfl
  | @scan sid session statement next found at_ writes =>
    refine ⟨inbox, silent _ (by simp) (by simp), ?_⟩
    refine standing.goesOn found (put_sessions_self store sid _) rfl
      (fun other apart => put_others store apart _) rfl rfl fun caller => ?_
    exact ((standing.serving sid session found caller).scan standing consistent caller at_
      writes).congr rfl
  | @visit sid index session statement next snapshot targets target writes found at_ aimed free
      written =>
    refine ⟨inbox, silent _ (by simp) (by simp), ?_⟩
    refine standing.goesOn found (put_sessions_self (store.lock sid writes) sid _) rfl
      (fun other apart => ⟨(put_others (store.lock sid writes) apart _).1,
        heldBy_lock_other store apart writes⟩) rfl rfl fun caller => ?_
    exact ((standing.serving sid session found caller).visit standing consistent caller at_ aimed
      written).congr rfl
  | @finish sid session statement next snapshot found at_ =>
    refine ⟨inbox, silent _ (by simp) (by simp), ?_⟩
    refine standing.goesOn found (put_sessions_self store sid _) rfl
      (fun other apart => put_others store apart _) rfl rfl fun caller => ?_
    exact ((standing.serving sid session found caller).finish at_).congr rfl
  | @commit sid session answer found at_ => exact standing.commit sound found at_
  | @rollback sid session found => exact standing.rollback served found

/-- Every run takes the recipient's inbox through the recipient's exchanges, and through nothing
else. -/
theorem standing_run {actions : List Action}
    (run : Steps step (Served recipientId) store actions after)
    (sound : Sound initial store) (standing : Standing recipientId inbox store) :
    ∃ final, Inbox.Explains inbox (exchanges recipientId store actions) final ∧
      Standing recipientId final after := by
  induction run generalizing inbox with
  | refl store => exact ⟨inbox, rfl, standing⟩
  | @next store middle after action actions served stepped rest ih =>
    obtain ⟨inbox', one, standing'⟩ := standing_step standing sound served stepped
    obtain ⟨final, more, standing''⟩ := ih (sound_step sound stepped) standing'
    refine ⟨final, ?_, standing''⟩
    rw [exchanges, stepped]
    exact one.append more

/-- A database under any row-level security starts sound. -/
theorem under_sound (policies : Operation → Policy) (table : Notifications) :
    Sound table.rows (under policies table.rows) := by
  have started := start_sound table
  have consistent := started.consistent
  exact ⟨⟨consistent.unique, consistent.locks, consistent.born, consistent.fresh,
    consistent.owned⟩, by simp [AllVerified, under, start], by simp [AllCovered, under, start],
    started.delivered, started.attributed, started.pending⟩

/-- A database just started stands on whatever list holds the recipient's rows. -/
theorem under_standing {policies : Operation → Policy} {rows : List Row}
    (admits : Admits recipientId policies) (of : Inbox.Of recipientId inbox)
    (mirrors : Inbox.Mirrors recipientId inbox rows) :
    Standing recipientId inbox (under policies rows) where
  of := of
  mirrors := mirrors
  admits := admits
  alone := by simp [under, start]
  quiet := by simp [under, start]
  serving := by simp [under, start]

/-- A step of the recipient's own leaves everybody else's rows as they are. -/
theorem others_kept {action : Action} (sound : Sound initial store)
    (stepped : store.step action = some after) (acts : Acts recipientId store action) (row : Row)
    (foreign : row.recipientId ≠ recipientId) : row ∈ after.rows ↔ row ∈ store.rows := by
  cases moves_of_step stepped with
  | @commit sid session answer found at_ =>
    obtain ⟨session', found', caller⟩ := acts
    obtain rfl : session = session' := Option.some.inj (found.symm.trans found')
    have settled := sound.verified.at_commit found at_
    -- All the session holds is on rows of its caller.
    have owned : ∀ write ∈ store.heldBy sid, write.row.recipientId = recipientId := by
      intro write member
      obtain ⟨statement, writing, permitted⟩ := settled.1.made write member
      rcases Operation.owner_of_permits writing permitted with asked | ⟨nowV7, command, fans, -⟩
      · exact Option.some.inj (asked.symm.trans caller)
      · rw [fans] at caller
        contradiction
    show row ∈ applyWrites store.rows (store.heldBy sid) ↔ _
    have mirrors : Inbox.Mirrors row.recipientId
        (store.rows.filter fun other => other.recipientId == row.recipientId) store.rows := by
      intro other
      rw [List.mem_filter, beq_iff_eq]
    have kept := mirrors.foreign sound.consistent.unique (sound.consistent.lawful sid)
      (fun write member same => foreign (same.symm.trans (owned write member))) row
    have before := mirrors row
    rw [kept] at before
    simpa using before
  | _ => exact Iff.rfl

end Store

/-- An inbox is explained in one way: the same requests get the same responses, announce the same
facts and leave the same rows. -/
theorem Inbox.Explains.unique {inbox final final' : List Row} {left right : List Exchange}
    (one : Inbox.Explains inbox left final) (two : Inbox.Explains inbox right final')
    (same : left.map Exchange.request = right.map Exchange.request) :
    left.map Exchange.response = right.map Exchange.response ∧
      List.Forall₂ (fun left right : Exchange => left.announced.Perm right.announced) left right ∧
      final = final' := by
  induction left generalizing inbox right with
  | nil =>
    obtain rfl : right = [] := List.map_eq_nil_iff.mp same.symm
    obtain rfl : final = inbox := one
    obtain rfl : final' = final := two
    exact ⟨rfl, .nil, rfl⟩
  | cons exchange left ih =>
    cases right with
    | nil => contradiction
    | cons exchange' right =>
      rw [List.map_cons, List.map_cons, List.cons.injEq] at same
      obtain ⟨operation, now⟩ := Prod.mk.inj same.1
      obtain ⟨answered, announced, more⟩ := one
      obtain ⟨answered', announced', more'⟩ := two
      rw [← operation] at answered' announced' more'
      rw [← now] at announced' more'
      obtain ⟨responses, facts, rows⟩ := ih more more' same.2
      have response : exchange.response = exchange'.response :=
        Option.some.inj (answered.symm.trans answered')
      refine ⟨?_, .cons (announced.trans announced'.symm) facts, rows⟩
      rw [List.map_cons, List.map_cons, response, responses]

/-! ## Calls of the GraphQL surface -/

/-- A query or mutation as it reaches the service, with the clock readings it meets. -/
structure Call where
  /-- The request context. -/
  ctx : Context
  /-- The root field, with its arguments. -/
  request : Request
  /-- The clock that the function reads itself. -/
  utcNow : DateTime
  /-- The start of its transaction. -/
  now : DateTime

section

variable (parseStr : String → Option Uuid)

/-- The transactions that calls open. -/
def opened (calls : List Call) : List (Operation × DateTime) :=
  calls.filterMap fun asked => match resolve parseStr asked.utcNow asked.ctx asked.request with
    | .ok operation => some (operation, asked.now)
    | .error _ => none

/-- The responses to calls: a refused one its refusal, and each other what its transaction
answered. -/
def responses : List Call → List (Except EdgeError Answer) → List (Except EdgeError Answer)
  | [], _ => []
  | asked :: calls, answers =>
    match resolve parseStr asked.utcNow asked.ctx asked.request with
    | .error error => .error error :: responses calls answers
    | .ok _ => match answers with
      | [] => []
      | answer :: answers => answer :: responses calls answers

/-- Two runs in which one recipient makes the same calls, on tables that agree on the recipient's
rows, under policies that admit these at least, and with anything done by and to others in
between, give the recipient the same responses, announce the same facts in answer to each call,
and leave the recipient the same rows. Each step of the recipient's leaves all other rows as
they are. The impersonated user does not matter, and a service passport opens no transaction. -/
theorem recipient_noninterference (recipientId : Uuid) (first second : Notifications)
    (policies policies' : Operation → Policy) (calls : List Call)
    (actions actions' : List Store.Action) (left right : Store)
    (agree : ∀ row, row.recipientId = recipientId → (row ∈ first.rows ↔ row ∈ second.rows))
    (admits : Admits recipientId policies) (admits' : Admits recipientId policies')
    (run : Steps Store.step (Store.Served recipientId) (.under policies first.rows) actions left)
    (run' : Steps Store.step (Store.Served recipientId) (.under policies' second.rows) actions'
      right)
    (asked : (Store.exchanges recipientId (.under policies first.rows) actions).map
      Exchange.request = opened parseStr calls)
    (asked' : (Store.exchanges recipientId (.under policies' second.rows) actions').map
      Exchange.request = opened parseStr calls) :
    responses parseStr calls
        ((Store.exchanges recipientId (.under policies first.rows) actions).map Exchange.response) =
      responses parseStr calls
        ((Store.exchanges recipientId (.under policies' second.rows) actions').map
          Exchange.response) ∧
    List.Forall₂ (fun one two : Exchange => one.announced.Perm two.announced)
      (Store.exchanges recipientId (.under policies first.rows) actions)
      (Store.exchanges recipientId (.under policies' second.rows) actions') ∧
    (∀ row, row.recipientId = recipientId → (row ∈ left.rows ↔ row ∈ right.rows)) ∧
    (∀ action after, left.step action = some after → Store.Acts recipientId left action →
      ∀ row, row.recipientId ≠ recipientId → (row ∈ after.rows ↔ row ∈ left.rows)) ∧
    (∀ utcNow userId request,
      resolve parseStr utcNow ⟨some (.human userId (some recipientId))⟩ request =
        resolve parseStr utcNow ⟨some (.human recipientId none)⟩ request) ∧
    ∀ utcNow serviceId request,
      resolve parseStr utcNow ⟨some (.service serviceId)⟩ request = .error .forbidden := by
  -- The inbox of the first table is an inbox of the second one too.
  have mirrors : Inbox.Mirrors recipientId
      (first.rows.filter fun row => row.recipientId == recipientId) first.rows := by
    intro row
    rw [List.mem_filter, beq_iff_eq]
  have mirrors' : Inbox.Mirrors recipientId
      (first.rows.filter fun row => row.recipientId == recipientId) second.rows := by
    intro row
    rw [mirrors row]
    constructor
    · rintro ⟨member, own⟩
      exact ⟨(agree row own).mp member, own⟩
    · rintro ⟨member, own⟩
      exact ⟨(agree row own).mpr member, own⟩
  have of : Inbox.Of recipientId
      (first.rows.filter fun row => row.recipientId == recipientId) := by
    refine ⟨fun row member => ((mirrors row).mp member).2, ?_, ?_⟩
    · exact (List.filter_sublist.map Row.id).nodup first.unique.ids
    · exact (List.filter_sublist.map Row.key).nodup first.unique.keys
  obtain ⟨final, explains, standing⟩ := Store.standing_run run (Store.under_sound policies first)
    (Store.under_standing admits of mirrors)
  obtain ⟨final', explains', standing'⟩ := Store.standing_run run'
    (Store.under_sound policies' second) (Store.under_standing admits' of mirrors')
  obtain ⟨same, facts, rows⟩ := explains.unique explains' (asked.trans asked'.symm)
  have sound : Store.Sound first.rows left := by
    have keeps : ∀ (store : Store) (action : Store.Action) (after : Store),
        Store.Sound first.rows store → Store.Served recipientId store action →
        store.step action = some after → Store.Sound first.rows after :=
      fun _ _ _ sound _ stepped => Store.sound_step sound stepped
    exact run.invariant keeps (Store.under_sound policies first)
  refine ⟨by rw [same], facts, ?_, ?_, fun _ _ _ => rfl, fun _ _ _ => rfl⟩
  · intro row own
    have here := standing.mirrors row
    have there := standing'.mirrors row
    rw [← rows, here] at there
    simpa [own] using there
  · exact fun action after stepped acts => Store.others_kept sound stepped acts

end

/-- Steps that a run of one call may take besides: those of others, and no rollback. -/
def besides (recipientId : Uuid) : Store.Action → Bool
  | .begin _ operation _ => operation.caller.isSome && operation.caller != some recipientId
  | .rollback _ => false
  | _ => true

/-- A run that opens with a call of the recipient's, the first of all. -/
theorem served_of_play {recipientId : Uuid} {policies : Operation → Policy} {rows : List Row}
    {operation : Operation} {now : DateTime} {actions : List Store.Action} {late : Store}
    (own : operation.caller = some recipientId)
    (played : play (fun store action => if besides recipientId action then store.step action
      else none) ((Store.under policies rows).put 0 (.start operation now)) actions = some late) :
    Steps Store.step (Store.Served recipientId) (.under policies rows)
      (.begin 0 operation now :: actions) late := by
  have first : Store.Served recipientId (.under policies rows) (.begin 0 operation now) := by
    constructor
    · intro _ sid session found
      cases found
    · rintro nowV7 command rfl
      contradiction
  have ensures : ∀ (store : Store) (action : Store.Action), besides recipientId action = true →
      Store.Served recipientId store action := by
    intro store action passed
    cases action with
    | begin sid operation now =>
      simp only [besides, Bool.and_eq_true, bne_iff_ne] at passed
      constructor
      · exact fun asks => absurd asks passed.2
      · rintro nowV7 command rfl
        exact absurd passed.1 (by simp [Operation.caller])
    | rollback sid => contradiction
    | _ => trivial
  exact .next first rfl (steps_of_checked_play played ensures)

/-- Reads the two identifiers of the sample call. -/
def sampleParse (text : String) : Option Uuid :=
  if text = "2" then some (sampleId 2) else if text = "7" then some (sampleId 7) else none

/-- An administrator, impersonating somebody, deletes an own notification and one that is
unknown in one table and somebody else's in the other. -/
def sampleCall : Call :=
  { ctx := ⟨some (.human (sampleId 9) (some (sampleId 1)))⟩,
    request := .deleteNotifications ["2", "7"], utcNow := ⟨0⟩, now := ⟨5000⟩ }

/-- A table with nobody else's rows. -/
def sampleAlone : Notifications := ⟨[sampleRow 1 2, sampleRow 1 3], by decide, by decide⟩

/-- A table with somebody else's row too. -/
def sampleShared : Notifications :=
  ⟨[sampleRow 5 7, sampleRow 1 3, sampleRow 1 2], by decide, by decide⟩

/-- The deletion, and nothing else. -/
def sampleQuiet : List Store.Action :=
  [.advance 0, .advance 0, .visit 0 0, .finish 0, .advance 0, .commit 0]

/-- The deletion, with the other row's owner marking it read meanwhile. -/
def sampleBusy : List Store.Action :=
  [.advance 0, .begin 1 (.markAsRead (sampleId 5) (sampleId 7)) ⟨6000⟩, .advance 1, .advance 0,
    .advance 1, .visit 0 0, .visit 1 0, .finish 1, .advance 1, .commit 1, .finish 0, .advance 0,
    .commit 0]

/-- The transaction that the call opens. -/
def sampleDeletion : Operation := .deleteNotifications (sampleId 1) [sampleId 2, sampleId 7]

/-- The deletion announces the same in both tables, also where every row is let through. -/
theorem recipient_noninterference_sample :
    List.Forall₂ (fun one two : Exchange => one.announced.Perm two.announced)
      (Store.exchanges (sampleId 1) (.under Operation.policy sampleAlone.rows)
        (.begin 0 sampleDeletion ⟨5000⟩ :: sampleQuiet))
      (Store.exchanges (sampleId 1) (.under (fun _ _ _ => true) sampleShared.rows)
        (.begin 0 sampleDeletion ⟨5000⟩ :: sampleBusy)) ∧
    (Store.exchanges (sampleId 1) (.under Operation.policy sampleAlone.rows)
      (.begin 0 sampleDeletion ⟨5000⟩ :: sampleQuiet)).map Exchange.announced =
        [[⟨.deleted, sampleId 1, sampleId 2⟩]] := by
  have agree : ∀ row, row.recipientId = sampleId 1 →
      (row ∈ sampleAlone.rows ↔ row ∈ sampleShared.rows) := by
    intro row own
    have foreign : row ≠ sampleRow 5 7 := by
      rintro rfl
      exact absurd own (by decide)
    simp [sampleAlone, sampleShared, foreign, or_comm]
  have admits : Admits (sampleId 1) Operation.policy := by
    intro operation caller row own
    cases operation with
    | fanOut nowV7 command => contradiction
    | _ => simp [Operation.policy, notificationsAppScope, own]
  exact ⟨(recipient_noninterference sampleParse (sampleId 1) sampleAlone sampleShared
    Operation.policy (fun _ _ _ => true) [sampleCall] _ _ _ _ agree admits (fun _ _ _ _ => rfl)
    (served_of_play rfl (Option.some_get (by decide)).symm)
    (served_of_play rfl (Option.some_get (by decide)).symm) rfl rfl).2.1, by decide⟩

end SvcNotifier
