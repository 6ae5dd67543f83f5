import SvcNotifier.Intake.Provenance
import SvcNotifier.Isolation

/-!
# What a transaction may be writing

Every operation has one statement that writes, and a resolver runs it only once it acts for its
caller. So what an open session holds, and what it is about to visit, is told by its operation:
the rows it may have locked, and whose they are.
-/

namespace SvcNotifier

open Library Program

/-! ## The statement of an operation -/

/-- What a session knows of itself: whom it acts for, and what it has run. -/
structure Acting where
  /-- Whom it acts for. -/
  currentUser : Option Uuid
  /-- What it has run. -/
  executed : List Statement

/-- A statement has returned. -/
def Acting.after (acting : Acting) (statement : Statement) : Acting :=
  { currentUser := statement.userAfter acting.currentUser,
    executed := acting.executed ++ [statement] }

/-- A writing statement is the operation's own, and a resolver's acts for its caller. -/
def writerContract (operation : Operation) :
    Contract Statement Statement.Reply Acting where
  requires statement acting := statement.isWrite = true →
    operation.writing = some statement ∧
      (operation.caller ≠ none → acting.currentUser = operation.caller)
  allows statement acting _ after := after = acting.after statement

/-- An operation that commits has run its writing statement, if that selects anything at all. -/
def Completes (operation : Operation) (ending : Ending) (acting : Acting) : Prop :=
  ∀ answer, ending = .commit answer → ∀ statement ∈ operation.writing, ∀ row,
    statement.selects row = true → statement ∈ acting.executed

section

variable {operation : Operation} {acting : Acting} {α : Type} {post : α → Acting → Prop}

/-- The rule for a statement that does not write. -/
theorem writer_reads {statement : Statement} {next : statement.Reply → Tx α}
    (reads : statement.isWrite = false)
    (later : ∀ reply, Ensures (writerContract operation) post (next reply)
      (acting.after statement)) :
    Ensures (writerContract operation) post (.call statement next) acting := by
  refine ⟨?_, ?_⟩
  · intro writes
    rw [reads] at writes
    contradiction
  · rintro reply after rfl
    exact later reply

/-- The rule for the operation's own statement. -/
theorem writer_writes {statement : Statement} {next : statement.Reply → Tx α}
    (own : operation.writing = some statement)
    (acts : operation.caller ≠ none → acting.currentUser = operation.caller)
    (later : ∀ reply, Ensures (writerContract operation) post (next reply)
      (acting.after statement)) :
    Ensures (writerContract operation) post (.call statement next) acting := by
  refine ⟨fun _ => ⟨own, acts⟩, ?_⟩
  rintro reply after rfl
  exact later reply

/-- What has run stays run while signals are sent. -/
theorem writer_signals (signals : List NotificationSignal) :
    Ensures (writerContract operation) (fun _ after => acting.executed ⊆ after.executed)
      (signalAll signals) acting := by
  apply ensures_forM
    (fun (_ : List (List NotificationSignal)) (after : Acting) => acting.executed ⊆ after.executed)
    signal (chunks signalsPerStatement signals) (List.Subset.refl _)
  intro batch rest middle kept
  apply writer_reads rfl
  intro _
  exact List.Subset.trans kept (List.subset_append_left _ _)

/-- What follows a signal in a program that has run its statement. -/
theorem writer_signals_then {signals : List NotificationSignal} {next : PUnit → Tx α}
    (later : ∀ after : Acting, acting.executed ⊆ after.executed →
      Ensures (writerContract operation) post (next ⟨⟩) after) :
    Ensures (writerContract operation) post (signalAll signals >>= next) acting :=
  Ensures.bind ((writer_signals signals).mono fun _ after kept => later after kept)

end

/-- A resolver's body runs once it acts for its caller. -/
theorem writer_scoped {operation : Operation} {post : Ending → Acting → Prop} (caller : Uuid)
    (body : Tx Ending)
    (later : ∀ acting : Acting, acting.currentUser = some caller →
      Ensures (writerContract operation) post body acting) :
    Ensures (writerContract operation) post (do scopedTx caller; body) ⟨none, []⟩ := by
  apply writer_reads rfl
  intro _
  exact later _ rfl

/-- Nothing is owed by an operation that has run its statement. -/
theorem completes_of_ran {operation : Operation} {ending : Ending} {acting : Acting}
    {statement : Statement} (own : operation.writing = some statement)
    (ran : statement ∈ acting.executed) : Completes operation ending acting := by
  intro _ _ other isOther _ _
  obtain rfl := Option.some.inj (own.symm.trans isOther)
  exact ran

/-- Nothing is owed by an operation that only reads. -/
theorem completes_of_reads {operation : Operation} {ending : Ending} {acting : Acting}
    (reads : operation.writing = none) : Completes operation ending acting := by
  intro _ _ other isOther _ _
  rw [reads] at isOther
  contradiction

section

variable {τ : Type} {contract : Contract Statement Statement.Reply τ}
  {state : τ} {recipientId : Uuid}

/-- A page query may be made, and its hydration makes no call. -/
theorem ensures_listPage (first : Int) {after : Option Uuid}
    (page : contract.requires (.page recipientId after (clampFirst first + 1)) state) :
    Ensures contract (fun _ _ => True) (listPage recipientId first after) state := by
  refine ⟨page, fun rows after _ => ?_⟩
  cases hydrated : hydrateAll (List.take (clampFirst first).toNat rows) with
  | ok nodes =>
    simp only [Program.bind, hydrated]
    trivial
  | error error =>
    simp only [Program.bind, hydrated]
    trivial

/-- A list request may be made where its check of a cursor may, and where its page query may
after it. -/
theorem ensures_listNotifications (first : Int) (cursor : Option Uuid) (holds : τ → Prop)
    (start : holds state)
    (anchor : ∀ id state, holds state → contract.requires (.anchor id recipientId) state ∧
      ∀ reply after, contract.allows (.anchor id recipientId) state reply after → holds after)
    (page : ∀ after limit state, holds state →
      contract.requires (.page recipientId after limit) state) :
    Ensures contract (fun _ _ => True) (listNotifications recipientId first cursor) state := by
  cases cursor with
  | none => exact ensures_listPage first (page _ _ state start)
  | some id =>
    obtain ⟨asked, goesOn⟩ := anchor id state start
    refine ⟨asked, fun there after allowed => ?_⟩
    cases there with
    | false => trivial
    | true => exact ensures_listPage first (page _ _ after (goesOn true after allowed))

end

/-- Every operation writes with its own statement, for its own caller, and has run it when it
commits. -/
theorem operation_writes (operation : Operation) :
    Ensures (writerContract operation) (Completes operation) operation.body ⟨none, []⟩ := by
  cases operation with
  | fanOut nowV7 command =>
    apply writer_writes rfl
    · intro some_
      exact absurd rfl some_
    · intro rows
      apply Ensures.bind
      apply writer_signals_then
      intro after kept
      exact completes_of_ran rfl (kept (List.mem_append_right _ List.mem_cons_self))
  | notifications caller first cursor =>
    apply writer_scoped
    intro acting _
    apply Ensures.bind
    have listed : Ensures (writerContract (.notifications caller first cursor)) (fun _ _ => True)
        (listNotifications caller first.toInt cursor) acting := by
      apply ensures_listNotifications first.toInt cursor (fun _ => True) trivial
      · exact fun id acting _ => ⟨fun writes => by contradiction, fun _ _ _ => trivial⟩
      · exact fun after limit acting _ writes => by contradiction
    apply listed.mono
    intro page after _
    cases page <;> exact completes_of_reads rfl
  | unreadCount caller =>
    apply writer_scoped
    intro acting _
    apply writer_reads rfl
    intro count
    exact completes_of_reads rfl
  | markAsRead caller id =>
    apply writer_scoped
    intro acting acts
    apply Ensures.bind
    apply writer_writes rfl fun _ => acts
    intro row
    have ran : Statement.markRead id caller ∈
        (acting.after (.markRead id caller)).executed :=
      List.mem_append_right _ List.mem_cons_self
    match row with
    | none => exact completes_of_ran rfl ran
    | some (some readAt, true) =>
      apply writer_signals_then
      intro after kept
      exact completes_of_ran rfl (kept ran)
    | some (none, true) => exact completes_of_ran rfl ran
    | some (none, false) => exact completes_of_ran rfl ran
    | some (some readAt, false) => exact completes_of_ran rfl ran
  | markAllAsRead utcNow caller =>
    apply writer_scoped
    intro acting acts
    apply Ensures.bind
    apply writer_writes rfl fun _ => acts
    intro ids
    have ran : Statement.markAllRead utcNow caller ∈
        (acting.after (.markAllRead utcNow caller)).executed :=
      List.mem_append_right _ List.mem_cons_self
    cases ids with
    | nil => exact completes_of_ran rfl ran
    | cons id rest =>
      apply writer_signals_then
      intro after kept
      exact completes_of_ran rfl (kept ran)
  | deleteNotification caller id =>
    apply writer_scoped
    intro acting acts
    apply Ensures.bind
    apply writer_writes rfl fun _ => acts
    intro deleted
    have ran : Statement.delete [id] caller ∈ (acting.after (.delete [id] caller)).executed :=
      List.mem_append_right _ List.mem_cons_self
    cases deleted with
    | nil => exact completes_of_ran rfl ran
    | cons first rest =>
      apply writer_signals_then
      intro after kept
      exact completes_of_ran rfl (kept ran)
  | deleteNotifications caller ids =>
    apply writer_scoped
    intro acting acts
    apply Ensures.bind
    cases ids with
    | nil =>
      -- No id is asked for: the statement would select nothing, and is not run.
      intro answer _ statement isStatement row selected
      obtain rfl := Option.some.inj isStatement
      simp [Statement.selects] at selected
    | cons id rest =>
      apply writer_writes rfl fun _ => acts
      intro deleted
      have ran : Statement.delete (id :: rest) caller ∈
          (acting.after (.delete (id :: rest) caller)).executed :=
        List.mem_append_right _ List.mem_cons_self
      cases deleted with
      | nil => exact completes_of_ran rfl ran
      | cons first others =>
        apply writer_signals_then
        intro after kept
        exact completes_of_ran rfl (kept ran)

/-- A caller's statement selects the caller's rows only. -/
theorem Operation.caller_of_writing {operation : Operation} {statement : Statement} {row : Row}
    (own : operation.writing = some statement) (selected : statement.selects row = true) :
    operation.caller = some row.recipientId ∧ operation.policy = notificationsAppScope := by
  cases operation with
  | fanOut nowV7 command =>
    obtain rfl := Option.some.inj own
    contradiction
  | notifications caller first cursor => contradiction
  | unreadCount caller => contradiction
  | markAsRead caller id =>
    obtain rfl := Option.some.inj own
    simp only [Statement.selects, Bool.and_eq_true, beq_iff_eq] at selected
    exact ⟨congrArg some selected.1.2.symm, rfl⟩
  | markAllAsRead utcNow caller =>
    obtain rfl := Option.some.inj own
    simp only [Statement.selects, Bool.and_eq_true, beq_iff_eq] at selected
    exact ⟨congrArg some selected.2.symm, rfl⟩
  | deleteNotification caller id =>
    obtain rfl := Option.some.inj own
    simp only [Statement.selects, Bool.and_eq_true, beq_iff_eq] at selected
    exact ⟨congrArg some selected.2.symm, rfl⟩
  | deleteNotifications caller ids =>
    obtain rfl := Option.some.inj own
    simp only [Statement.selects, Bool.and_eq_true, beq_iff_eq] at selected
    exact ⟨congrArg some selected.2.symm, rfl⟩

/-! ## The session of an operation -/

/-- How a session stands towards the statement of its operation. -/
def Session.Writer (session : Session) : Prop :=
  match session.stage with
  | .ready body => Ensures (writerContract session.operation) (Completes session.operation) body
      ⟨session.currentUser, session.executed⟩
  | .scanning statement next _ _ => session.operation.writing = some statement ∧
      (session.operation.caller ≠ none → session.currentUser = session.operation.caller) ∧
      ∀ reply, Ensures (writerContract session.operation) (Completes session.operation)
        (next reply) (Acting.after ⟨session.currentUser, session.executed⟩ statement)

/-- What a session knows of itself once a statement has returned. -/
theorem Session.acting_resume (session : Session) (statement : Statement) (body : Tx Ending) :
    (⟨(session.resume statement body).currentUser, (session.resume statement body).executed⟩ :
      Acting) = Acting.after ⟨session.currentUser, session.executed⟩ statement := by
  cases statement <;> rfl

/-- A session whose statement has returned stands as the rest of its program does. -/
theorem Session.writer_resume {session : Session} {statement : Statement} {body : Tx Ending}
    (rest : Ensures (writerContract session.operation) (Completes session.operation) body
      (Acting.after ⟨session.currentUser, session.executed⟩ statement)) :
    (session.resume statement body).Writer := by
  rw [← session.acting_resume statement body] at rest
  exact rest

namespace Store

variable {store after : Store} {initial : List Row} {sid : Nat} {session : Session}

/-- A row that a statement has yet to visit: one it proposes, or one it selects that was in the
table under its recipient, and that has only evolved while it is there. -/
def Aimed (store : Store) (now : DateTime) (statement : Statement) (target : Row) : Prop :=
  target ∈ statement.candidates now ∨
    statement.selects target = true ∧ store.Owned target.recipientId target.id ∧
      ∀ current ∈ store.rows, current.id = target.id → Evolves target current

/-- What an open session holds and is about to visit, told by its operation. -/
structure Writing (store : Store) (sid : Nat) (session : Session) : Prop where
  /-- Its program goes on as its operation does. -/
  writer : session.Writer
  /-- What it holds its operation writes. -/
  held : ∀ write ∈ store.heldBy sid,
    ∃ statement ∈ session.operation.writing, statement.Permits session.now write
  /-- What it is about to visit is its operation's. -/
  aimed : ∀ statement next snapshot targets,
    session.stage = .scanning statement next snapshot targets →
    ∀ target ∈ targets, store.Aimed session.now statement target

/-- Within a writing statement a session runs the one that its operation writes with. -/
theorem Writing.own (writing : store.Writing sid session) {statement : Statement}
    {next : statement.Reply → Tx Ending} {snapshot targets : List Row}
    (at_ : session.stage = .scanning statement next snapshot targets) :
    session.operation.writing = some statement := by
  have writer := writing.writer
  simp only [Session.Writer, at_] at writer
  exact writer.1

/-- Every open session stands so. -/
def AllWriting (store : Store) : Prop :=
  ∀ sid session, store.sessions sid = some session → store.Writing sid session

/-- What a row with a used id has become, it goes on to become. -/
theorem Sound.evolves_on {action : Action} {row : Row} (sound : Sound initial store)
    (stepped : store.step action = some after) (used : row.id ∈ store.history.map Write.id)
    (evolved : ∀ current ∈ store.rows, current.id = row.id → Evolves row current) :
    ∀ current ∈ after.rows, current.id = row.id → Evolves row current := by
  have follows := sound.follows_step stepped
  intro current there same
  have before : row.id ∈ store.rows.map Row.id := by
    by_contra absent
    have gone := follows.gone row.id used absent
    exact gone (same ▸ List.mem_map_of_mem there)
  obtain ⟨old, was, onOld⟩ := List.mem_map.mp before
  exact (evolved old was onOld).trans
    (follows.evolves old was current there (same.trans onOld.symm))

/-- What a statement is about to visit stays so over any step. -/
theorem Aimed.step {action : Action} {now : DateTime} {statement : Statement} {target : Row}
    (aimed : store.Aimed now statement target) (sound : Sound initial store)
    (stepped : store.step action = some after) : after.Aimed now statement target := by
  rcases aimed with proposed | ⟨selected, owned, evolved⟩
  · exact Or.inl proposed
  · refine Or.inr ⟨selected, ?_, sound.evolves_on stepped owned.used evolved⟩
    exact owned.mono (history_grows stepped).subset

/-- What a statement aims at when it starts. -/
theorem aimed_of_scan (sound : Sound initial store) (statement : Statement) (now : DateTime)
    (sees : Row → Bool) :
    ∀ target ∈ statement.targets now (store.rows.filter sees),
      store.Aimed now statement target := by
  have selected : ∀ target ∈ (store.rows.filter sees).filter statement.selects,
      store.Aimed now statement target := by
    intro target member
    obtain ⟨seen, selects⟩ := List.mem_filter.mp member
    have there := (List.mem_filter.mp seen).1
    refine Or.inr ⟨selects, sound.owned there, ?_⟩
    intro current is same
    rw [sound.consistent.unique.eq_of_id is there same]
    exact Evolves.refl target
  intro target member
  cases statement with
  | insert ids sourceEventId recipientIds template payload link => exact Or.inl member
  | _ => exact selected target member

/-- The rows still to visit, with the one that is visited. -/
theorem perm_of_aimed {targets : List Row} {index : Nat} {target : Row}
    (aimed : targets[index]? = some target) :
    (target :: targets.eraseIdx index).Perm targets := by
  obtain ⟨inside, is⟩ := List.getElem?_eq_some_iff.mp aimed
  rw [← is]
  exact List.getElem_cons_eraseIdx_perm inside

/-- A session that a step leaves alone stands as it did. -/
theorem Writing.aside {action : Action} (writing : store.Writing sid session)
    (sound : Sound initial store) (stepped : store.step action = some after)
    (same : after.heldBy sid = store.heldBy sid) : after.Writing sid session where
  writer := writing.writer
  held := by
    rw [same]
    exact writing.held
  aimed statement next snapshot targets at_ target member :=
    (writing.aimed statement next snapshot targets at_ target member).step sound stepped

/-- A step leaves the sessions that do not take it where they were, with what they hold. -/
theorem others_of_step {action : Action} (stepped : store.step action = some after) :
    ∀ other, other ≠ action.sid →
      after.sessions other = store.sessions other ∧ after.heldBy other = store.heldBy other := by
  intro other apart
  cases moves_of_step stepped with
  | begin idle unused => exact put_others store apart _
  | reply found at_ reads => exact put_others store apart _
  | scan found at_ writes => exact put_others store apart _
  | @visit sid index session statement next snapshot targets target writes =>
    exact ⟨(put_others (store.lock sid writes) apart _).1, heldBy_lock_other store apart writes⟩
  | finish found at_ => exact put_others store apart _
  | @commit sid session answer found at_ =>
    exact ⟨Function.update_of_ne apart _ _, heldBy_close (store.publish sid session.queued) apart
      session.operation (.committed answer)⟩
  | @rollback sid session found =>
    exact ⟨Function.update_of_ne apart _ _,
      heldBy_close store apart session.operation .rolledBack⟩

/-- What the others stand by, they stand by after a step. -/
theorem AllWriting.update {action : Action} (writing : store.AllWriting)
    (sound : Sound initial store) (stepped : store.step action = some after)
    (own : ∀ session, after.sessions action.sid = some session →
      after.Writing action.sid session) : after.AllWriting := by
  intro other session found
  by_cases same : other = action.sid
  · rw [same] at found ⊢
    exact own session found
  · obtain ⟨sessions, held⟩ := others_of_step stepped other same
    exact (writing other session (sessions ▸ found)).aside sound stepped held

/-- Every step leaves the open sessions standing so. -/
theorem writing_step {action : Action} (sound : Sound initial store) (writing : store.AllWriting)
    (stepped : store.step action = some after) : after.AllWriting := by
  apply writing.update sound stepped
  intro later isLater
  have stepped' := stepped
  cases moves_of_step stepped with
  | @begin sid operation now idle unused =>
    obtain rfl : Session.start operation now = later := by
      simpa [put, Action.sid] using isLater
    refine ⟨operation_writes operation, ?_, ?_⟩
    · intro write member
      rw [Action.sid, heldBy_put, sound.consistent.heldBy_idle idle] at member
      contradiction
    · intro statement next snapshot targets at_
      contradiction
  | @reply sid session statement next found at_ reads =>
    have was := writing sid session found
    have owes := was.writer
    simp only [Session.Writer, at_] at owes
    obtain rfl : session.resume statement _ = later := by simpa [put, Action.sid] using isLater
    refine ⟨Session.writer_resume (owes.2 _ _ rfl), was.held, ?_⟩
    intro statement next snapshot targets at_
    contradiction
  | @scan sid session statement next found at_ writes =>
    have was := writing sid session found
    have owes := was.writer
    simp only [Session.Writer, at_] at owes
    obtain rfl : _ = later := by simpa [put, Action.sid] using isLater
    obtain ⟨own, acts⟩ := owes.1 writes
    refine ⟨⟨own, acts, fun reply => owes.2 reply _ rfl⟩, was.held, ?_⟩
    rintro statement next snapshot targets ⟨⟩
    exact aimed_of_scan sound _ _ _
  | @visit sid index session statement next snapshot targets target writes found at_ aimed free
      written =>
    have was := writing sid session found
    have owes := was.writer
    have verified := sound.verified sid session found
    simp only [Session.Writer, at_] at owes
    simp only [Verified, at_] at verified
    obtain rfl : _ = later := by simpa [put, Action.sid] using isLater
    refine ⟨owes, ?_, ?_⟩
    · intro write member
      rw [Action.sid, heldBy_put, heldBy_lock_self, List.mem_append] at member
      rcases member with old | new
      · exact was.held write old
      · have there : target ∈ targets := List.mem_of_getElem? aimed
        exact ⟨statement, owes.1,
          visited_permitted (verified.2.2.1 target there) free written write new⟩
    · rintro statement next snapshot targets ⟨⟩ other member
      exact (was.aimed _ _ _ _ at_ other (List.mem_of_mem_eraseIdx member)).step sound stepped'
  | @finish sid session statement next snapshot found at_ =>
    have was := writing sid session found
    have owes := was.writer
    simp only [Session.Writer, at_] at owes
    obtain rfl : session.resume statement _ = later := by simpa [put, Action.sid] using isLater
    refine ⟨Session.writer_resume (owes.2.2 _), was.held, ?_⟩
    intro statement next snapshot targets at_
    contradiction
  | commit found at_ => simp [close, Action.sid] at isLater
  | rollback found => simp [close, Action.sid] at isLater

/-- No session is open at the start. -/
theorem start_writing (rows : List Row) : (start rows).AllWriting := by
  intro sid session found
  contradiction

end Store

end SvcNotifier
