import SvcNotifier.Intake.Provenance
import SvcNotifier.Intake.Language
import SvcNotifier.Pages

/-!
# Every stored row can be served

One row whose link does not parse would fail every page it is on. The link of a row has been
parsed by `validate`, was bound as the text of what the parse gave and is parsed once more when
the row is read. Over any run that starts from readable rows, no row is ever unreadable and no
transaction is ever failed by what it has read.
-/

namespace SvcNotifier

open Library Program

/-- `from_row` reads the row. -/
def Row.Hydrates (row : Row) : Prop := ∃ notification, Notification.fromRow row = .ok notification

/-- Rows that are each read are read together. -/
theorem hydrateAll_of_hydrates {rows : List Row} (hydrate : ∀ row ∈ rows, row.Hydrates) :
    ∃ notifications, hydrateAll rows = .ok notifications := by
  cases hydrated : hydrateAll rows with
  | ok notifications => exact ⟨notifications, rfl⟩
  | error error =>
    obtain ⟨row, member, unreadable⟩ := hydrateAll_error hydrated
    obtain ⟨notification, content⟩ := hydrate row member
    rw [unreadable] at content
    contradiction

/-! ## Programs that no content makes fail -/

/-- What statements reply where every row they see is good. -/
def reading (good : Row → Prop) : Contract Statement Statement.Reply Unit where
  requires _ _ := True
  allows statement _ reply _ := ∃ snapshot writes,
    (∀ row ∈ snapshot, good row) ∧ reply = statement.reply snapshot writes

/-- On good rows a program does not fail, and returns what it should. -/
def Returns {α : Type} (good : Row → Prop) (post : α → Prop) (program : Tx α) : Prop :=
  Meets (reading good) (fun value _ => post value) (fun _ _ => False) program ()

/-- A program that readable rows never make fail. -/
def Unfailing {α : Type} (program : Tx α) : Prop := Returns Row.Hydrates (fun _ => True) program

section

variable {α β : Type} {good : Row → Prop} {post : α → Prop}

/-- A statement, and then what goes on from any reply. -/
theorem returns_call {statement : Statement} {next : statement.Reply → Tx α}
    (goesOn : ∀ snapshot writes, (∀ row ∈ snapshot, good row) →
      Returns good post (next (statement.reply snapshot writes))) :
    Returns good post (.call statement next : Tx α) := by
  refine ⟨trivial, ?_⟩
  intro reply _ allowed
  obtain ⟨snapshot, writes, hold, rfl⟩ := allowed
  exact goesOn snapshot writes hold

/-- What goes on from a reply, when the statement itself has run. -/
theorem Returns.reply {statement : Statement} {next : statement.Reply → Tx α}
    (returns : Returns good post (.call statement next : Tx α)) {snapshot : List Row}
    (hold : ∀ row ∈ snapshot, good row) (writes : List Write) :
    Returns good post (next (statement.reply snapshot writes)) :=
  returns.2 _ () ⟨snapshot, writes, hold, rfl⟩

/-- Programs in sequence. -/
theorem Returns.bind {program : Tx α} {next : α → Tx β} {final : β → Prop}
    (first : Returns good post program)
    (second : ∀ value, post value → Returns good final (next value)) :
    Returns good final (program >>= next) :=
  Meets.bind (Meets.mono first (fun value _ => second value) fun _ _ failed => failed)

/-- A statement alone. -/
theorem returns_execute (statement : Statement) :
    Returns good (fun reply => ∃ snapshot writes, (∀ row ∈ snapshot, good row) ∧
      reply = statement.reply snapshot writes) (execute statement) :=
  returns_call fun snapshot writes hold => ⟨snapshot, writes, hold, rfl⟩

/-- A page of good rows. -/
theorem listPage_returns (hydrate : ∀ row, good row → row.Hydrates) (recipientId : Uuid)
    (first : Int) (after : Option Uuid) :
    Returns good (fun page => ∀ found, page = some found → ∀ notification ∈ found.nodes,
      ∃ row, good row ∧ row.recipientId = recipientId ∧ Notification.fromRow row = .ok notification)
      (listPage recipientId first after) := by
  refine (returns_execute _).bind fun rows replied => ?_
  obtain ⟨snapshot, writes, hold, rfl⟩ := replied
  have selected : ∀ row ∈ (Statement.reply (.page recipientId after (clampFirst first + 1)) snapshot
      writes).take (clampFirst first).toNat, good row ∧ row.recipientId = recipientId := by
    intro row member
    have inside := List.mem_of_mem_take (List.mem_of_mem_take member)
    rw [listed, newestFirst, List.mem_insertionSort, List.mem_filter, Bool.and_eq_true,
      beq_iff_eq] at inside
    exact ⟨hold row inside.1, inside.2.1⟩
  obtain ⟨notifications, hydrated⟩ :=
    hydrateAll_of_hydrates fun row member => hydrate row (selected row member).1
  dsimp only
  rw [hydrated]
  intro found same notification member
  obtain rfl := Option.some.inj same
  obtain ⟨row, inside, content⟩ := mem_hydrateAll hydrated member
  obtain ⟨held, own⟩ := selected row inside
  exact ⟨row, held, own, content⟩

/-- `list_notifications` on good rows: it does not fail, and serves them as they are read. -/
theorem listNotifications_returns (hydrate : ∀ row, good row → row.Hydrates) (recipientId : Uuid)
    (first : Int) (after : Option Uuid) :
    Returns good (fun page => ∀ found, page = some found → ∀ notification ∈ found.nodes,
      ∃ row, good row ∧ row.recipientId = recipientId ∧ Notification.fromRow row = .ok notification)
      (listNotifications recipientId first after) := by
  cases after with
  | none => exact listPage_returns hydrate recipientId first none
  | some cursor =>
    refine (returns_execute _).bind fun resolves _ => ?_
    by_cases there : resolves = true
    · rw [if_pos there]
      exact listPage_returns hydrate recipientId first (some cursor)
    · rw [if_neg there]
      intro found absent
      contradiction

/-- Announcing looks at no row. -/
theorem unfailing_signalAll (signals : List NotificationSignal) :
    Unfailing (signalAll signals) := by
  refine meets_forM (fun _ _ => True) signal _ trivial ?_
  intro chunk rest _ _
  exact returns_call fun _ _ _ => trivial

/-- `insert_notifications` reads no content. -/
theorem unfailing_insertNotifications (nowV7 : Nat → Uuid) (sourceEventId : Uuid)
    (recipientIds : List Uuid) (template : String) (payload : Value) (link : Option RelativeLink) :
    Unfailing (insertNotifications nowV7 sourceEventId recipientIds template payload link) := by
  refine (returns_execute _).bind fun rows _ => ?_
  exact (unfailing_signalAll _).bind fun _ _ => trivial

/-- `mark_as_read` reads no content. -/
theorem unfailing_markAsRead (recipientId id : Uuid) : Unfailing (markAsRead recipientId id) := by
  refine (returns_execute _).bind fun row _ => ?_
  match row with
  | none => trivial
  | some (some readAt, true) => exact (unfailing_signalAll _).bind fun _ _ => trivial
  | some (some readAt, false) => trivial
  | some (none, _) => trivial

/-- `mark_all_as_read` reads no content. -/
theorem unfailing_markAllAsRead (utcNow : DateTime) (recipientId : Uuid) :
    Unfailing (markAllAsRead utcNow recipientId) := by
  refine (returns_execute _).bind fun ids _ => ?_
  split
  · trivial
  · exact (unfailing_signalAll _).bind fun _ _ => trivial

/-- `delete_notifications` reads no content. -/
theorem unfailing_deleteNotifications (recipientId : Uuid) (ids : List Uuid) :
    Unfailing (deleteNotifications recipientId ids) := by
  unfold deleteNotifications
  split
  · trivial
  · refine (returns_execute _).bind fun deleted _ => ?_
    split
    · trivial
    · exact (unfailing_signalAll _).bind fun _ _ => trivial

/-- No operation is failed by the content of a row. -/
theorem unfailing_body (operation : Operation) : Unfailing operation.body := by
  have begins : ∀ caller, Unfailing (scopedTx caller) := fun _ => returns_call fun _ _ _ => trivial
  cases operation with
  | fanOut nowV7 command =>
    exact (unfailing_insertNotifications nowV7 command.sourceEventId command.recipientIds
      command.template command.payload command.link).bind fun _ _ => trivial
  | notifications caller first after =>
    refine (begins caller).bind fun _ _ => ?_
    refine (listNotifications_returns (fun _ hydrates => hydrates) caller first.toInt after).bind
      fun page _ => ?_
    cases page with
    | none => trivial
    | some page => trivial
  | unreadCount caller =>
    exact (begins caller).bind fun _ _ => (returns_execute _).bind fun _ _ => trivial
  | markAsRead caller id =>
    refine (begins caller).bind fun _ _ => (unfailing_markAsRead caller id).bind fun outcome _ => ?_
    cases outcome with
    | none => trivial
    | some outcome => trivial
  | markAllAsRead utcNow caller =>
    exact (begins caller).bind fun _ _ =>
      (unfailing_markAllAsRead utcNow caller).bind fun _ _ => trivial
  | deleteNotification caller id =>
    refine (begins caller).bind fun _ _ =>
      (unfailing_deleteNotifications caller [id]).bind fun deleted _ => ?_
    split <;> trivial
  | deleteNotifications caller ids =>
    exact (begins caller).bind fun _ _ =>
      (unfailing_deleteNotifications caller ids).bind fun _ _ => trivial

/-- A program that reads tables of good rows returns what it should, if it gets to its end. -/
theorem Returns.onViews {policy : Policy} {program : Tx α} (returns : Returns good post program)
    {views : List (List Row)} (hold : ∀ table ∈ views, ∀ row ∈ table, good row)
    {user : Option Uuid} {outcome : Except SqlxError α}
    (ran : SvcNotifier.onViews policy user views program = some outcome) :
    ∃ value, outcome = .ok value ∧ post value := by
  induction program generalizing views user with
  | done value => exact ⟨value, (Option.some.inj ran).symm, returns⟩
  | fail failure => exact returns.elim
  | call statement next ih =>
    cases views with
    | nil => cases ran
    | cons table views =>
      have seen : ∀ row ∈ table.filter (policy user), good row := by
        intro row member
        exact hold table List.mem_cons_self row (List.mem_filter.mp member).1
      refine ih _ (returns.reply seen []) ?_ ran
      intro other member
      exact hold other (List.mem_cons_of_mem table member)

end

/-! ## Every run -/

/-- What is left of a transaction is not failed by what it has read. -/
def Stage.Unfailing : Stage → Prop
  | .ready body => SvcNotifier.Unfailing body
  | .scanning statement next snapshot _ => ∀ writes,
      SvcNotifier.Unfailing (next (statement.reply snapshot writes))

namespace Store

variable {store after : Store} {initial : List Row}

/-- No open transaction can be failed by what it has read. -/
def Unfailing (store : Store) : Prop :=
  ∀ sid session, store.sessions sid = some session → session.stage.Unfailing

/-- A step of one session leaves the others as they stood. -/
theorem Unfailing.update (unfailing : store.Unfailing) (sid : Nat)
    (others : ∀ other, other ≠ sid → after.sessions other = store.sessions other)
    (own : ∀ session, after.sessions sid = some session → session.stage.Unfailing) :
    after.Unfailing := by
  intro other session found
  by_cases same : other = sid
  · subst same
    exact own session found
  · rw [others other same] at found
    exact unfailing other session found

/-- Every step on readable rows keeps the transactions unfailing. -/
theorem unfailing_step {action : Action} (hydrate : ∀ row ∈ store.rows, row.Hydrates)
    (unfailing : store.Unfailing) (stepped : store.step action = some after) :
    after.Unfailing := by
  have seen : ∀ session, ∀ row ∈ store.rows.filter (store.sees session), row.Hydrates :=
    fun session row member => hydrate row (List.mem_filter.mp member).1
  cases moves_of_step stepped with
  | @begin sid operation now idle unused =>
    refine unfailing.update sid (fun other apart => put_sessions_other store apart _) ?_
    intro session found
    obtain rfl := Option.some.inj ((put_sessions_self store sid _).symm.trans found)
    exact unfailing_body operation
  | @reply sid session statement next found at_ reads =>
    have owes := unfailing sid session found
    rw [at_] at owes
    refine unfailing.update sid (fun other apart => put_sessions_other store apart _) ?_
    intro later now
    obtain rfl := Option.some.inj ((put_sessions_self store sid _).symm.trans now)
    exact owes.reply (seen session) []
  | @scan sid session statement next found at_ writes =>
    have owes := unfailing sid session found
    rw [at_] at owes
    refine unfailing.update sid (fun other apart => put_sessions_other store apart _) ?_
    intro later now
    obtain rfl := Option.some.inj ((put_sessions_self store sid _).symm.trans now)
    exact owes.reply (seen session)
  | @visit sid index session statement next snapshot targets target writes found at_ aimed free
      written =>
    have owes := unfailing sid session found
    rw [at_] at owes
    refine unfailing.update sid
      (fun other apart => put_sessions_other (store.lock sid writes) apart _) ?_
    intro later now
    obtain rfl :=
      Option.some.inj ((put_sessions_self (store.lock sid writes) sid _).symm.trans now)
    exact owes
  | @finish sid session statement next snapshot found at_ =>
    have owes := unfailing sid session found
    rw [at_] at owes
    refine unfailing.update sid (fun other apart => put_sessions_other store apart _) ?_
    intro later now
    obtain rfl := Option.some.inj ((put_sessions_self store sid _).symm.trans now)
    exact owes (store.heldBy sid)
  | @commit sid session answer found at_ =>
    refine unfailing.update sid (fun other apart => ?_) ?_
    · simp [close, publish, apart]
    · intro later now
      simp [close] at now
  | @rollback sid session found =>
    refine unfailing.update sid (fun other apart => ?_) ?_
    · simp [close, apart]
    · intro later now
      simp [close] at now

/-- Rows that can be read stay so, and none that cannot is added. -/
theorem Sound.hydrate (sound : Sound initial store) (hydrate : ∀ row ∈ initial, row.Hydrates) :
    ∀ row ∈ store.rows, row.Hydrates := by
  intro row member
  cases content : Notification.fromRow row with
  | ok notification => exact ⟨notification, content⟩
  | error error =>
    obtain ⟨first, there, -, unreadable⟩ := sound.unreadable member content
    obtain ⟨notification, readable⟩ := hydrate first there
    rw [unreadable] at readable
    contradiction

/-- From a table of readable rows, no transaction of any run is failed by a row's content. -/
theorem Reachable.unfailing {table : Notifications} (reached : Reachable table store)
    (hydrate : ∀ row ∈ table.rows, row.Hydrates) : store.Unfailing := by
  have keeps : ∀ (s : Store) (a : Action) (t : Store),
      Sound table.rows s ∧ s.Unfailing → anyStep s a → s.step a = some t →
      Sound table.rows t ∧ t.Unfailing := by
    intro s a t held _ stepped
    exact ⟨sound_step held.1 stepped, unfailing_step (held.1.hydrate hydrate) held.2 stepped⟩
  have none_ : (start table.rows).Unfailing := by
    intro sid session found
    contradiction
  exact (Reaches.invariant reached keeps ⟨start_sound table, none_⟩).2

end Store

/-! ## What the producer sent -/

namespace Intake

variable {serde : Serde} {errorText : SqlxError → String} {intake later : Intake}

/-- A row is of a delivered payload, and is served as the notification with the link that its
producer sent in it. -/
def ServesAsSent (serde : Serde) (intake : Intake) (row : Row) (notification : Notification) :
    Prop :=
  Notification.fromRow row = .ok notification ∧
    ∃ number frame envelope raw, intake.frame? number = some frame ∧
      frame.payload = .ok envelope ∧ rawDeliver serde envelope.payload = some raw ∧
      row.sourceEventId = raw.sourceEventId ∧ row.recipientId ∈ raw.recipientIds ∧
      notification.link.map RelativeLink.asStr = raw.link

/-- What was delivered stays delivered. -/
theorem frame?_kept {action : Action} {number : Nat} {frame : Delivered}
    (stepped : step serde errorText intake action = some later)
    (found : intake.frame? number = some frame) : later.frame? number = some frame := by
  cases moves_of_step stepped with
  | deliver idle => exact frame?_append found
  | _ => exact found

/-- A row is served as sent from then on. -/
theorem ServesAsSent.kept {row : Row} {notification : Notification}
    (serves : ServesAsSent serde intake row notification)
    (run : Reaches (step serde errorText) anyStep intake later) :
    ServesAsSent serde later row notification := by
  obtain ⟨content, number, frame, envelope, raw, framed, sent⟩ := serves
  have kept : later.frame? number = some frame :=
    run.invariant (fun _ _ _ found _ stepped => frame?_kept stepped found) framed
  exact ⟨content, number, frame, envelope, raw, kept, sent⟩

end Intake

end SvcNotifier
