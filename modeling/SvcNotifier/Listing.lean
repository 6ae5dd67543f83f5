import SvcNotifier.Store

/-!
# A page request among other transactions' commits

`notifier_notifications` only reads, so what its transaction sees are the tables committed when
its statements start, one for each (READ COMMITTED). Run on one table throughout, it answers as
if it were atomic. The anchor check and the page query resolve the cursor separately; where the
cursor's row is deleted between them, the page query compares with NULL and selects nothing.
-/

namespace SvcNotifier

open Library Program

/-- A page request whose statements start on these tables, one after the other. -/
def pageRequest (caller : Uuid) (first : Int32) (after : Option Uuid) (views : List (List Row)) :
    Option (Except SqlxError Ending) :=
  onViews notificationsAppScope none views (notifierNotifications caller first after)

/-- A page request as if it ran atomically: its two or three statements see one table. -/
def atomicRequest (caller : Uuid) (first : Int32) (after : Option Uuid) (table : List Row) :
    Option (Except SqlxError Ending) :=
  pageRequest caller first after [table, table, table]

/-- The rows of a table that the caller's policy lets a scoped transaction see. -/
def visible (caller : Uuid) (table : List Row) : List Row :=
  table.filter (notificationsAppScope (some caller))

/-- The page query and what the resolver makes of it. -/
def pageOf (caller : Uuid) (first : Int32) (after : Option Uuid) (table : List Row) :
    Except SqlxError Ending :=
  let limit := clampFirst first.toInt
  let rows := (listed (visible caller table) caller after).take (limit + 1).toNat
  match hydrateAll (rows.take limit.toNat) with
  | .ok nodes => .ok (.commit (.ok (.connection (nodes.map NotificationNode.from)
      (decide (limit < (rows.length : Int))))))
  | .error error => .error (corrupt error)

/-- The cursor names a row of the caller. -/
def Resolves (caller cursor : Uuid) (table : List Row) : Prop :=
  ∃ row ∈ table, row.id = cursor ∧ row.recipientId = caller

/-- The cursor names a row of the caller, and none of the caller's rows is below it. -/
def Ends (caller cursor : Uuid) (table : List Row) : Prop :=
  ∃ anchor, anchorRow table caller cursor = some anchor ∧
    ∀ row ∈ table, row.recipientId = caller → ¬ row.position < anchor.position

/-- The page query, from the moment it starts. -/
theorem onViews_page (caller : Uuid) (first : Int32) (after : Option Uuid) (table : List Row)
    (rest : List (List Row)) :
    onViews notificationsAppScope (some caller) (table :: rest)
      (listPage caller first.toInt after >>= fun page => match page with
        | none => pure (.commit (.error .notFound))
        | some page => pure (.commit (.ok
            (.connection (page.nodes.map NotificationNode.from) page.hasNextPage)))) =
      some (pageOf caller first after table) := by
  simp only [listPage, execute, perform_bind, call_bind, onViews, Statement.userAfter, pageOf,
    visible]
  cases hydrated : hydrateAll (((listed (table.filter (notificationsAppScope (some caller)))
      caller after).take (clampFirst first.toInt + 1).toNat).take
        (clampFirst first.toInt).toNat) with
  | ok nodes =>
    simp only [Statement.reply, hydrated, pure_bind]
    rfl
  | error error =>
    simp only [Statement.reply, hydrated, fail_bind, onViews]

/-- A request without a cursor answers with the page of its second statement. -/
theorem pageRequest_first (caller : Uuid) (first : Int32) (scope page : List Row)
    (rest : List (List Row)) :
    pageRequest caller first none (scope :: page :: rest) = some (pageOf caller first none page) :=
  onViews_page caller first none page rest

/-- A request whose cursor does not resolve when it is checked is refused. -/
theorem pageRequest_refused {caller cursor : Uuid} {first : Int32} {anchor : List Row}
    (gone : anchorRow (visible caller anchor) caller cursor = none) (scope : List Row)
    (rest : List (List Row)) :
    pageRequest caller first (some cursor) (scope :: anchor :: rest) =
      some (.ok (.commit (.error .notFound))) := by
  change onViews notificationsAppScope (some caller) (anchor :: rest)
    (listNotifications caller first.toInt (some cursor) >>= _) = _
  simp only [listNotifications, execute, perform_bind, call_bind, onViews, Statement.reply]
  change onViews _ _ _ ((if (anchorRow (visible caller anchor) caller cursor).isSome
    then _ else _) >>= _) = _
  rw [gone]
  rfl

/-- A request whose cursor resolves when it is checked answers with the page of its last
statement. -/
theorem pageRequest_paged {caller cursor : Uuid} {first : Int32} {anchor : List Row}
    (there : (anchorRow (visible caller anchor) caller cursor).isSome = true)
    (scope page : List Row)
    (rest : List (List Row)) :
    pageRequest caller first (some cursor) (scope :: anchor :: page :: rest) =
      some (pageOf caller first (some cursor) page) := by
  change onViews notificationsAppScope (some caller) (anchor :: page :: rest)
    (listNotifications caller first.toInt (some cursor) >>= _) = _
  simp only [listNotifications, execute, perform_bind, call_bind, onViews, Statement.reply]
  change onViews _ _ _ ((if (anchorRow (visible caller anchor) caller cursor).isSome
    then _ else _) >>= _) = _
  rw [if_pos there]
  exact onViews_page caller first (some cursor) page rest

/-- A request that has checked a cursor that resolves waits for its page. -/
theorem pageRequest_waits {caller cursor : Uuid} {first : Int32} {anchor : List Row}
    (there : (anchorRow (visible caller anchor) caller cursor).isSome = true) (scope : List Row) :
    pageRequest caller first (some cursor) [scope, anchor] = none := by
  change onViews notificationsAppScope (some caller) [anchor]
    (listNotifications caller first.toInt (some cursor) >>= _) = _
  simp only [listNotifications, execute, perform_bind, call_bind, onViews, Statement.reply]
  change onViews _ _ _ ((if (anchorRow (visible caller anchor) caller cursor).isSome
    then _ else _) >>= _) = _
  rw [if_pos there]
  rfl

/-- The policy hides no row that a cursor of the caller could name. -/
theorem anchorRow_visible (caller cursor : Uuid) (table : List Row) :
    anchorRow (visible caller table) caller cursor = anchorRow table caller cursor := by
  rw [anchorRow, anchorRow, visible, List.find?_filter]
  congr 1
  funext row
  by_cases own : row.recipientId = caller
  · rw [Bool.eq_iff_iff]
    simp [notificationsAppScope, own]
  · have other : caller ≠ row.recipientId := fun same => own same.symm
    simp [notificationsAppScope, own, other]

/-- A cursor resolves when it names a row. -/
theorem isSome_anchorRow (caller cursor : Uuid) (table : List Row) :
    (anchorRow (visible caller table) caller cursor).isSome = true ↔
      Resolves caller cursor table := by
  rw [anchorRow_visible, anchorRow, List.find?_isSome]
  simp [Resolves]

/-- Sorting leaves nothing of nothing only. -/
theorem newestFirst_eq_nil (rows : List Row) : newestFirst rows = [] ↔ rows = [] := by
  have same := List.perm_insertionSort (fun left right : Row => right.position ≤ left.position) rows
  constructor
  · intro empty
    rw [newestFirst] at empty
    rw [empty] at same
    exact same.symm.eq_nil
  · rintro rfl
    rfl

/-- The page query selects nothing below a cursor that does not resolve. -/
theorem listed_unresolved {caller cursor : Uuid} {table : List Row}
    (gone : anchorRow (visible caller table) caller cursor = none) :
    listed (visible caller table) caller (some cursor) = [] := by
  rw [listed, newestFirst_eq_nil, List.filter_eq_nil_iff]
  intro row member
  simp [belowCursor, gone]

/-- Below a cursor that resolves, the page query selects nothing exactly where it ends the
list. -/
theorem listed_resolved {caller cursor : Uuid} {table : List Row} {anchor : Row}
    (there : anchorRow (visible caller table) caller cursor = some anchor) :
    listed (visible caller table) caller (some cursor) = [] ↔
      ∀ row ∈ table, row.recipientId = caller → ¬ row.position < anchor.position := by
  rw [listed, newestFirst_eq_nil, List.filter_eq_nil_iff]
  simp only [belowCursor, there]
  constructor
  · intro nothing row member own below
    have seen : row ∈ visible caller table := by
      simp [visible, notificationsAppScope, member, own]
    exact nothing row seen (by simp [own, below])
  · intro nothing row seen selected
    have member : row ∈ table := (List.mem_filter.mp seen).1
    simp only [Bool.and_eq_true, beq_iff_eq, decide_eq_true_eq] at selected
    exact nothing row member selected.1 selected.2

/-- A page request never asks for less than one row. -/
theorem clampFirst_pos (first : Int) : 1 ≤ clampFirst first := by
  unfold clampFirst
  split
  · omega
  · split <;> omega

/-- A request's cursor is still there when its page is queried, if it was when it was checked,
or names the last row of the caller's list in one of these tables. `views` are the tables its
statements start on: the scope, the anchor check and the page query. -/
def CursorHeld (caller cursor : Uuid) (views tables : List (List Row)) : Prop :=
  ∀ anchor page, views[1]? = some anchor → views[2]? = some page →
    Resolves caller cursor anchor →
      Resolves caller cursor page ∨ ∃ table ∈ tables, Ends caller cursor table

/-- The answer that says the list ends here. -/
def endOfList : Except SqlxError Ending := .ok (.commit (.ok (.connection [] false)))

/-- A page is the end of the list exactly where its query selects nothing. -/
theorem pageOf_eq_endOfList (caller : Uuid) (first : Int32) (after : Option Uuid)
    (table : List Row) :
    pageOf caller first after table = endOfList ↔
      listed (visible caller table) caller after = [] := by
  have positive := clampFirst_pos first.toInt
  constructor
  · intro ended
    unfold pageOf endOfList at ended
    cases rows : listed (visible caller table) caller after with
    | nil => rfl
    | cons row rest =>
      -- The first row is taken, and hydrated into a node or an error.
      obtain ⟨more, is⟩ : ∃ more, (clampFirst first.toInt + 1).toNat = more + 1 :=
        ⟨(clampFirst first.toInt).toNat, by omega⟩
      obtain ⟨less, is'⟩ : ∃ less, (clampFirst first.toInt).toNat = less + 1 :=
        ⟨(clampFirst first.toInt - 1).toNat, by omega⟩
      simp only [rows, is, is', List.take_succ_cons, hydrateAll] at ended
      cases hydrated : Notification.fromRow row with
      | error error => simp [hydrated] at ended
      | ok node =>
        cases others : hydrateAll (List.take less (List.take more rest)) with
        | error error => simp [hydrated, others] at ended
        | ok nodes => simp [hydrated, others] at ended
  · intro empty
    unfold pageOf
    simp only [empty, List.take_nil, hydrateAll, endOfList, List.map_nil, List.length_nil]
    have unexceeded : ¬ clampFirst first.toInt < ((0 : Nat) : Int) := by omega
    rw [decide_eq_false unexceeded]

/-- The atomic request at a table gives the end of the list exactly where the cursor ends it. -/
theorem atomicRequest_eq_endOfList (caller cursor : Uuid) (first : Int32) (table : List Row) :
    atomicRequest caller first (some cursor) table = some endOfList ↔ Ends caller cursor table := by
  cases found : anchorRow (visible caller table) caller cursor with
  | none =>
    rw [atomicRequest, pageRequest_refused found]
    refine iff_of_false (by simp [endOfList]) ?_
    rintro ⟨row, there, -⟩
    rw [anchorRow_visible, there] at found
    contradiction
  | some row =>
    have stands : (anchorRow (visible caller table) caller cursor).isSome = true := by
      rw [found]
      rfl
    rw [atomicRequest, pageRequest_paged stands, Option.some.injEq, pageOf_eq_endOfList,
      listed_resolved found]
    rw [anchorRow_visible] at found
    constructor
    · intro below
      exact ⟨row, found, below⟩
    · rintro ⟨other, there, below⟩
      obtain rfl := Option.some.inj (found.symm.trans there)
      exact below

/-- An answer is an atomic one at some table if and only if the cursor held. -/
theorem atomic_iff_cursorHeld {caller : Uuid} {first : Int32} {after : Option Uuid}
    {views tables : List (List Row)} {answer : Except SqlxError Ending}
    (within : ∀ view ∈ views, view ∈ tables)
    (answered : pageRequest caller first after views = some answer) :
    (∃ table ∈ tables, atomicRequest caller first after table = some answer) ↔
      ∀ cursor, after = some cursor → CursorHeld caller cursor views tables := by
  match views, after with
  | [], _ => cases answered
  | [scope], none => cases answered
  | [scope], some cursor => cases answered
  | scope :: page :: rest, none =>
    refine iff_of_true ⟨page, within page (by simp), ?_⟩ (by simp)
    rw [← answered, atomicRequest, pageRequest_first, pageRequest_first]
  | scope :: anchor :: rest, some cursor =>
    simp only [Option.some.injEq, forall_eq']
    cases checked : anchorRow (visible caller anchor) caller cursor with
    | none =>
      have gone : ¬ Resolves caller cursor anchor := by
        rw [← isSome_anchorRow, checked]
        simp
      refine iff_of_true ⟨anchor, within anchor (by simp), ?_⟩ ?_
      · rw [← answered, atomicRequest, pageRequest_refused checked, pageRequest_refused checked]
      · intro anchor' page at_ _ resolves
        obtain rfl : anchor = anchor' := Option.some.inj at_
        exact absurd resolves gone
    | some row =>
      have there : (anchorRow (visible caller anchor) caller cursor).isSome = true := by
        rw [checked]
        rfl
      have resolves := (isSome_anchorRow caller cursor anchor).mp there
      cases rest with
      | nil =>
        rw [pageRequest_waits there] at answered
        contradiction
      | cons page rest =>
        rw [pageRequest_paged there] at answered
        obtain rfl := Option.some.inj answered
        have held : CursorHeld caller cursor (scope :: anchor :: page :: rest) tables ↔
            Resolves caller cursor page ∨ ∃ table ∈ tables, Ends caller cursor table := by
          simp [CursorHeld, resolves]
        rw [held]
        cases queried : anchorRow (visible caller page) caller cursor with
        | some row' =>
          have still : (anchorRow (visible caller page) caller cursor).isSome = true := by
            rw [queried]
            rfl
          refine iff_of_true ⟨page, within page (by simp), ?_⟩
            (Or.inl ((isSome_anchorRow caller cursor page).mp still))
          rw [atomicRequest, pageRequest_paged still]
        | none =>
          have gone : ¬ Resolves caller cursor page := by
            rw [← isSome_anchorRow, queried]
            simp
          have ended := (pageOf_eq_endOfList caller first (some cursor) page).mpr
            (listed_unresolved queried)
          simp only [ended, gone, false_or, atomicRequest_eq_endOfList]

/-! ## In a run of the database -/

/-- A program none of whose statements writes. -/
def ReadOnly {α : Type} (program : Tx α) : Prop :=
  match program with
  | .done _ => True
  | .fail _ => True
  | .call statement next => statement.isWrite = false ∧ ∀ reply, ReadOnly (next reply)
termination_by structural program

/-- Programs that read, in sequence. -/
theorem readOnly_bind {α β : Type} {program : Tx α} {next : α → Tx β} (reads : ReadOnly program)
    (rest : ∀ value, ReadOnly (next value)) : ReadOnly (program >>= next) := by
  induction program with
  | done value => exact rest value
  | fail error => trivial
  | call statement body ih => exact ⟨reads.1, fun reply => ih reply (reads.2 reply)⟩

/-- A page is read. -/
theorem readOnly_listPage (recipientId : Uuid) (first : Int) (after : Option Uuid) :
    ReadOnly (listPage recipientId first after) := by
  refine ⟨rfl, fun rows => ?_⟩
  change ReadOnly (match hydrateAll (rows.take (clampFirst first).toNat) with
    | .ok _ => _
    | .error _ => _)
  split
  · trivial
  · trivial

/-- A list is read. -/
theorem readOnly_listNotifications (recipientId : Uuid) (first : Int) (after : Option Uuid) :
    ReadOnly (listNotifications recipientId first after) := by
  cases after with
  | none => exact readOnly_listPage recipientId first none
  | some cursor =>
    refine ⟨rfl, fun resolves => ?_⟩
    change ReadOnly (if resolves = true then _ else _)
    by_cases there : resolves = true
    · rw [if_pos there]
      exact readOnly_listPage recipientId first (some cursor)
    · rw [if_neg there]
      trivial

/-- A page request writes nothing. -/
theorem readOnly_notifierNotifications (caller : Uuid) (first : Int32) (after : Option Uuid) :
    ReadOnly (notifierNotifications caller first after) := by
  refine ⟨rfl, fun _ => ?_⟩
  show ReadOnly (listNotifications caller first.toInt after >>= fun page => match page with
    | none => _
    | some page => _)
  refine readOnly_bind (readOnly_listNotifications caller first.toInt after) fun page => ?_
  cases page with
  | none => trivial
  | some page => trivial

namespace Store

/-- The table a session's statement starts on, where a step starts one. -/
def viewed (store : Store) (sid : Nat) : Action → List (List Row)
  | .advance acting => if acting = sid then [store.rows] else []
  | _ => []

/-- The tables on which the statements of a session start during a run. -/
def views (sid : Nat) : Store → List Action → List (List Row)
  | _, [] => []
  | store, action :: actions => match store.step action with
    | some after => store.viewed sid action ++ views sid after actions
    | none => []

/-- What a session that has returned is about to commit and then answer. -/
def answering (store : Store) (sid : Nat) : Option (Except EdgeError Answer) :=
  match store.sessions sid with
  | none => none
  | some session => match session.stage with
    | .ready (.done (.commit answer)) => some answer
    | _ => none

/-- A session that answers has run its program to the end. -/
theorem answering_eq_some {store : Store} {sid : Nat} {answer : Except EdgeError Answer}
    (answered : store.answering sid = some answer) :
    ∃ session, store.sessions sid = some session ∧
      session.stage = .ready (.done (.commit answer)) := by
  unfold answering at answered
  split at answered
  · contradiction
  · rename_i session found
    split at answered
    · rename_i at_
      obtain rfl := Option.some.inj answered
      exact ⟨session, found, at_⟩
    · contradiction

/-- A session that has ended takes no step. -/
theorem ended_step {store after : Store} {sid : Nat} {action : Action}
    (stepped : store.step action = some after) (gone : store.sessions sid = none)
    (ended : store.outcomes sid ≠ none) :
    after.sessions sid = none ∧ after.outcomes sid ≠ none := by
  obtain ⟨acted, turn, others⟩ := turn_of_step stepped
  by_cases here : sid = acted
  · subst here
    cases turn with
    | opens asked idle unused => exact absurd unused ended
    | goesOn found => simp [gone] at found
    | commits asked found => simp [gone] at found
    | rollsBack asked found => simp [gone] at found
  · rw [(others sid here).1, (others sid here).2]
    exact ⟨gone, ended⟩

/-- A session that has ended does not come back. -/
theorem ended_stays {store late : Store} {sid : Nat} {actions : List Action}
    (run : Steps step anyStep store actions late) (gone : store.sessions sid = none)
    (ended : store.outcomes sid ≠ none) : late.sessions sid = none := by
  have keeps : ∀ (store : Store) (action : Action) (after : Store),
      (store.sessions sid = none ∧ store.outcomes sid ≠ none) → anyStep store action →
      store.step action = some after → after.sessions sid = none ∧ after.outcomes sid ≠ none :=
    fun _ _ _ held _ stepped => ended_step stepped held.1 held.2
  exact (run.invariant keeps ⟨gone, ended⟩).1

/-- What a step does to a session that only reads: nothing, one statement, or its end. -/
theorem step_of_reader {store after : Store} {action : Action} {sid : Nat} {session : Session}
    {body : Tx Ending} (stepped : store.step action = some after)
    (found : store.sessions sid = some session) (at_ : session.stage = .ready body)
    (reads : ReadOnly body) :
    (after.sessions sid = some session ∧ store.viewed sid action = []) ∨
    (∃ statement next, body = .call statement next ∧ action = .advance sid ∧
      after.sessions sid = some (session.resume statement
        (next (statement.reply (store.rows.filter (store.sees session)) [])))) ∨
    (after.sessions sid = none ∧ after.outcomes sid ≠ none) := by
  have elsewhere : ∀ (reached : Store) (acting : Nat) (later : Session), sid ≠ acting →
      reached.sessions = store.sessions →
        (reached.put acting later).sessions sid = some session := by
    intro reached acting later apart same
    rw [put_sessions_other reached apart, same, found]
  cases moves_of_step stepped with
  | @begin acting operation now idle unused =>
    by_cases here : sid = acting
    · rw [← here, found] at idle
      contradiction
    · exact Or.inl ⟨elsewhere store acting _ here rfl, rfl⟩
  | @reply acting reader statement next found' at' reads' =>
    by_cases here : sid = acting
    · subst here
      obtain rfl := Option.some.inj (found.symm.trans found')
      obtain rfl := Stage.ready.inj (at_.symm.trans at')
      exact Or.inr (Or.inl ⟨statement, next, rfl, rfl, put_sessions_self store sid _⟩)
    · exact Or.inl ⟨elsewhere store acting _ here rfl, if_neg (Ne.symm here)⟩
  | @scan acting writer statement next found' at' writes =>
    by_cases here : sid = acting
    · subst here
      obtain rfl := Option.some.inj (found.symm.trans found')
      obtain rfl := Stage.ready.inj (at_.symm.trans at')
      rw [reads.1] at writes
      contradiction
    · exact Or.inl ⟨elsewhere store acting _ here rfl, if_neg (Ne.symm here)⟩
  | @visit acting index writer statement next snapshot targets target writes found' at' =>
    by_cases here : sid = acting
    · subst here
      obtain rfl := Option.some.inj (found.symm.trans found')
      rw [at_] at at'
      contradiction
    · exact Or.inl ⟨elsewhere (store.lock acting writes) acting _ here rfl, rfl⟩
  | @finish acting writer statement next snapshot found' at' =>
    by_cases here : sid = acting
    · subst here
      obtain rfl := Option.some.inj (found.symm.trans found')
      rw [at_] at at'
      contradiction
    · exact Or.inl ⟨elsewhere store acting _ here rfl, rfl⟩
  | @commit acting other answer found' at' =>
    by_cases here : sid = acting
    · subst here
      exact Or.inr (Or.inr ⟨by simp [close], by simp [close]⟩)
    · exact Or.inl ⟨by simp [close, publish, here, found], rfl⟩
  | @rollback acting other found' =>
    by_cases here : sid = acting
    · subst here
      exact Or.inr (Or.inr ⟨by simp [close], by simp [close]⟩)
    · exact Or.inl ⟨by simp [close, here, found], rfl⟩

/-- A transaction that only reads ends as its program does on the tables its statements start
on. -/
theorem onViews_of_steps {store late : Store} {actions : List Action} {sid : Nat}
    {session final : Session} {body : Tx Ending} {ending : Ending}
    (run : Steps step anyStep store actions late) (found : store.sessions sid = some session)
    (at_ : session.stage = .ready body) (reads : ReadOnly body)
    (left : late.sessions sid = some final) (ended : final.stage = .ready (.done ending)) :
    onViews (store.policies session.operation) session.currentUser (store.views sid actions) body =
      some (.ok ending) := by
  induction run generalizing session body with
  | refl store =>
    obtain rfl := Option.some.inj (found.symm.trans left)
    obtain rfl := Stage.ready.inj (at_.symm.trans ended)
    rfl
  | @next store after late action actions met stepped rest ih =>
    rw [views, stepped, ← policies_kept stepped]
    rcases step_of_reader stepped found at_ reads with ⟨same, unseen⟩ |
      ⟨statement, next, rfl, rfl, found'⟩ | ⟨gone, ended'⟩
    · show onViews _ _ (store.viewed sid action ++ _) body = _
      rw [unseen]
      exact ih same at_ reads left
    · show onViews _ _ (store.viewed sid (.advance sid) ++ _) _ = _
      rw [viewed, if_pos rfl, List.singleton_append, onViews, policies_kept stepped]
      have resumed := ih found' rfl (reads.2 _) left
      rw [policies_kept stepped] at resumed
      cases statement <;> exact resumed
    · rw [ended_stays rest gone ended'] at left
      contradiction

/-- The tables a session's statements start on are tables of the run. -/
theorem views_visited {store : Store} {sid : Nat} {actions : List Action} {table : List Row}
    (seen : table ∈ store.views sid actions) :
    ∃ moment ∈ visited step store actions, moment.rows = table := by
  induction actions generalizing store with
  | nil => cases seen
  | cons action actions ih =>
    rw [views] at seen
    cases stepped : store.step action with
    | none =>
      rw [stepped] at seen
      cases seen
    | some after =>
      rw [stepped] at seen
      rw [visited, stepped]
      rcases List.mem_append.mp seen with now | later
      · have here : store.rows = table := by
          cases action with
          | advance acting =>
            rw [viewed] at now
            split at now
            · exact (List.mem_singleton.mp now).symm
            · cases now
          | _ => cases now
        exact ⟨store, List.mem_cons_self, here⟩
      · obtain ⟨moment, member, same⟩ := ih later
        exact ⟨moment, List.mem_cons_of_mem _ member, same⟩

end Store

/-- A page request answers as an atomic one would at some moment between its start and its end,
if and only if its cursor held, whatever other sessions do in between. -/
theorem page_request_atomic_iff (store late : Store) (actions : List Store.Action) (sid : Nat)
    (caller : Uuid) (first : Int32) (after : Option Uuid) (now : DateTime)
    (answer : Except EdgeError Answer)
    (deployed : store.policies = Operation.policy)
    (opened : store.sessions sid = some (.start (.notifications caller first after) now))
    (run : Steps Store.step anyStep store actions late)
    (answered : late.answering sid = some answer) :
    (∃ moment ∈ visited Store.step store actions,
      atomicRequest caller first after moment.rows = some (.ok (.commit answer))) ↔
    ∀ cursor, after = some cursor → CursorHeld caller cursor (store.views sid actions)
      ((visited Store.step store actions).map Store.rows) := by
  obtain ⟨session, found, ended⟩ := Store.answering_eq_some answered
  have returned : pageRequest caller first after (store.views sid actions) =
      some (.ok (.commit answer)) := by
    have ends := Store.onViews_of_steps run opened rfl
      (readOnly_notifierNotifications caller first after) found ended
    rw [deployed] at ends
    exact ends
  have within : ∀ view ∈ store.views sid actions,
      view ∈ (visited Store.step store actions).map Store.rows := by
    intro view seen
    obtain ⟨moment, member, rfl⟩ := Store.views_visited seen
    exact List.mem_map_of_mem member
  rw [← atomic_iff_cursorHeld within returned]
  constructor
  · rintro ⟨moment, member, same⟩
    exact ⟨moment.rows, List.mem_map_of_mem member, same⟩
  · rintro ⟨table, member, same⟩
    obtain ⟨moment, inside, rfl⟩ := List.mem_map.mp member
    exact ⟨moment, inside, same⟩

/-- A table of three rows, and the recipient's request for the page after the newest, opened. -/
def sampleListing : Store :=
  (Store.start [sampleRow 1 2, sampleRow 1 3, sampleRow 1 4]).put 0
    (.start (.notifications (sampleId 1) 10 (some (sampleId 4))) ⟨9000⟩)

/-- How many rows an answer lists, and whether it says that more follow; a refusal lists none. -/
def pageShape : Option (Except SqlxError Ending) → Option (Nat × Bool)
  | some (.ok (.commit (.ok (.connection nodes hasNextPage)))) => some (nodes.length, hasNextPage)
  | _ => none

/-- A command for the recipient. -/
def sampleArrival : DeliverNotification :=
  { sourceEventId := sampleId 50, recipientIds := [sampleId 1], template := "welcome",
    payload := .null, link := none }

/-- Between the anchor check and the page query a fan-out commits a newer row, and the same person
deletes a row below the cursor. -/
def sampleRead : List Store.Action :=
  [.advance 0, .advance 0,
    .begin 1 (.fanOut (fun i => sampleId (i + 5)) sampleArrival) ⟨9400⟩, .advance 1, .visit 1 0,
    .finish 1, .advance 1, .commit 1,
    .begin 2 (.deleteNotification (sampleId 1) (sampleId 3)) ⟨9500⟩, .advance 2, .advance 2,
    .visit 2 0, .finish 2, .advance 2, .commit 2,
    .advance 0]

/-- The database once the request has returned. -/
def sampleReadDone : Store := (play Store.step sampleListing sampleRead).get (by decide)

/-- The request answers as an atomic one does once both have committed, with the one row that is
left below the cursor. -/
theorem page_request_atomic_iff_sample :
    ∃ answer, (∃ moment ∈ visited Store.step sampleListing sampleRead,
      atomicRequest (sampleId 1) 10 (some (sampleId 4)) moment.rows =
        some (.ok (.commit answer))) ∧
      pageShape (some (.ok (.commit answer))) = some (1, false) := by
  refine ⟨(sampleReadDone.answering 0).get (by decide), ?_, by decide⟩
  refine (page_request_atomic_iff sampleListing sampleReadDone sampleRead 0 (sampleId 1) 10
    (some (sampleId 4)) ⟨9000⟩ _ rfl rfl (steps_of_play (Option.some_get _).symm)
    (Option.some_get _).symm).mpr ?_
  intro cursor named anchor page checked queried resolves
  obtain rfl := Option.some.inj named
  left
  have still : (sampleListing.views 0 sampleRead)[2]?.all (fun table =>
      (anchorRow (visible (sampleId 1) table) (sampleId 1) (sampleId 4)).isSome) = true := by
    decide
  rw [queried] at still
  exact (isSome_anchorRow _ _ page).mp still

/-- The cursor's row is deleted by the same person between the anchor check and the page query. -/
def sampleGone : List Store.Action :=
  [.advance 0, .advance 0,
    .begin 1 (.deleteNotification (sampleId 1) (sampleId 4)) ⟨9500⟩, .advance 1, .advance 1,
    .visit 1 0, .finish 1, .advance 1, .commit 1,
    .advance 0]

/-- The database once the disturbed request has returned. -/
def sampleGoneDone : Store := (play Store.step sampleListing sampleGone).get (by decide)

/-- The disturbed request answers with an empty page that has no next one, while two rows remain
below the cursor; atomically it would have listed them, or been refused. -/
theorem false_end_of_list :
    ¬ ∀ (store late : Store) (actions : List Store.Action) (sid : Nat) (caller : Uuid)
      (first : Int32) (after : Option Uuid) (now : DateTime) (answer : Except EdgeError Answer),
      store.policies = Operation.policy →
      store.sessions sid = some (.start (.notifications caller first after) now) →
      Steps Store.step anyStep store actions late → late.answering sid = some answer →
      ∃ moment ∈ visited Store.step store actions,
        atomicRequest caller first after moment.rows = some (.ok (.commit answer)) := by
  intro always
  obtain ⟨moment, member, same⟩ := always sampleListing sampleGoneDone sampleGone 0 (sampleId 1) 10
    (some (sampleId 4)) ⟨9000⟩ _ rfl rfl (steps_of_play (Option.some_get _).symm)
    (Option.some_get (by decide)).symm
  have listed : ∀ moment ∈ visited Store.step sampleListing sampleGone,
      pageShape (atomicRequest (sampleId 1) 10 (some (sampleId 4)) moment.rows) ≠
        some (0, false) := by
    decide
  exact listed moment member (same ▸ by decide)

end SvcNotifier
