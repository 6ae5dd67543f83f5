import SvcNotifier.Walk

/-!
# A walk by cursor among other commits

A client asks for its first page without a cursor and goes on from the id of the last node it has
been given, for as long as it is told that there is a next page and with whatever size it likes
each time. Anybody commits anything between two of its requests.
-/

namespace SvcNotifier

open Library Program

/-! ## The rows of a table -/

/-- Whether a row can be read depends on its link only. -/
theorem fromRow_error {row other : Row} {error : HydrationError} (link : other.link = row.link)
    (unreadable : Notification.fromRow row = .error error) :
    Notification.fromRow other = .error error := by
  unfold Notification.fromRow at unreadable ⊢
  rw [link]
  cases kept : row.link with
  | none =>
    simp only [kept] at unreadable
    contradiction
  | some raw =>
    cases parsed : RelativeLink.parse raw with
    | ok relative =>
      simp only [kept, parsed] at unreadable
      contradiction
    | error refusal =>
      cases error
      simp only [parsed]

/-- A row whose link was parsed can be read. -/
theorem fromRow_of_link {row : Row} (link : Option RelativeLink)
    (same : row.link = link.map RelativeLink.asStr) :
    ∃ notification, Notification.fromRow row = .ok notification := by
  unfold Notification.fromRow
  rw [same]
  cases link with
  | none => exact ⟨_, rfl⟩
  | some link =>
    simp only [Option.map_some, link.parse_asStr]
    exact ⟨_, rfl⟩

namespace Store

variable {store after : Store} {initial : List Row}

/-- An operation inserts rows that can be read. -/
theorem readable_of_permits {operation : Operation} {statement : Statement} {now : DateTime}
    {row : Row} (writing : statement ∈ operation.writing)
    (permitted : statement.Permits now (.insert row)) :
    ∃ notification, Notification.fromRow row = .ok notification := by
  cases operation with
  | fanOut nowV7 command =>
    obtain rfl := Option.some.inj writing
    obtain ⟨proposed, member, same⟩ := permitted
    obtain rfl := Write.insert.inj same
    obtain ⟨pair, -, rfl⟩ := List.mem_map.mp member
    exact fromRow_of_link command.link rfl
  | markAsRead caller id =>
    obtain rfl := Option.some.inj writing
    obtain ⟨other, -, same⟩ := permitted
    contradiction
  | markAllAsRead utcNow caller =>
    obtain rfl := Option.some.inj writing
    obtain ⟨other, -, same⟩ := permitted
    contradiction
  | deleteNotification caller id =>
    obtain rfl := Option.some.inj writing
    obtain ⟨other, -, same⟩ := permitted
    contradiction
  | deleteNotifications caller ids =>
    obtain rfl := Option.some.inj writing
    obtain ⟨other, -, same⟩ := permitted
    contradiction
  | notifications caller first cursor => contradiction
  | unreadCount caller => contradiction

/-- A row that cannot be read was in the table from the start. -/
theorem Sound.unreadable (sound : Sound initial store) {row : Row} (member : row ∈ store.rows)
    {error : HydrationError} (unreadable : Notification.fromRow row = .error error) :
    ∃ first ∈ initial, first.recipientId = row.recipientId ∧
      Notification.fromRow first = .error error := by
  obtain ⟨first, inserted, isFirst⟩ := sound.consistent.born row member
  have link : first.link = row.link := by rw [isFirst]
  have owner : first.recipientId = row.recipientId := by rw [isFirst]
  have still := fromRow_error link unreadable
  obtain ⟨made, history, -, attributed⟩ := sound.attributed
  rw [history, List.mem_append] at inserted
  rcases inserted with old | new
  · obtain ⟨same, there, isSame⟩ := List.mem_map.mp old
    rw [← Write.insert.inj isSame] at owner still
    exact ⟨same, there, owner, still⟩
  · obtain ⟨sid, operation, answer, now, -, statement, writing, permitted⟩ := attributed _ new
    obtain ⟨notification, content⟩ := readable_of_permits writing permitted
    rw [still] at content
    contradiction

/-- A row whose id was used before a step was there before it, in the same place. -/
theorem Sound.was_there {action : Action} (sound : Sound initial store)
    (stepped : store.step action = some after) {row : Row} (member : row ∈ after.rows)
    (used : row.id ∈ store.history.map Write.id) :
    ∃ before ∈ store.rows, before.owned = row.owned ∧ before.position = row.position := by
  obtain ⟨writes, queued, applies, -⟩ := applies_of_step sound stepped
  have unique := sound.consistent.unique
  rw [applies.rows, mem_applyWrites unique applies.lawful] at member
  rcases member with ⟨write, inside, version⟩ | ⟨old, -⟩
  · cases write with
    | insert new =>
      obtain rfl : new = row := Option.some.inj version
      exact absurd used (applies.fresh new inside).1
    | setRead before readAt =>
      have there := (applies.lawful.reads before readAt inside).1
      obtain rfl := Option.some.inj version
      exact ⟨before, there, rfl, rfl⟩
    | delete before => contradiction
  · exact ⟨row, old, rfl, rfl⟩

end Store

/-! ## The walk -/

/-- How a walk stands. -/
inductive Course where
  /-- The next page is to be asked for. -/
  | goesOn
  /-- There was no next page. -/
  | ended
  /-- A request was refused. -/
  | refused (error : EdgeError)

/-- A walk, and the database. -/
structure Pager where
  /-- The database. -/
  store : Store
  /-- The table at the first request. -/
  origin : Option (List Row)
  /-- What the client has been given. -/
  nodes : List NotificationNode
  /-- How the walk stands. -/
  course : Course

namespace Pager

/-- A client that is about to walk. -/
def opening (store : Store) : Pager :=
  { store := store, origin := none, nodes := [], course := .goesOn }

/-- The table at the first request, which may be the one that is made now. -/
def firstTable (pager : Pager) : List Row := pager.origin.getD pager.store.rows

/-- The walk once it has been answered. -/
def answered (pager : Pager) : Except SqlxError Ending → Pager
  | .ok (.commit (.ok (.connection more hasNextPage))) =>
    { pager with
      origin := some pager.firstTable
      nodes := pager.nodes ++ more
      course := if hasNextPage then .goesOn else .ended }
  | .ok (.commit (.ok _)) => pager
  | .ok (.commit (.error error)) =>
    { pager with origin := some pager.firstTable, course := .refused error }
  | .ok (.rollback error) =>
    { pager with origin := some pager.firstTable, course := .refused error }
  | .error error =>
    { pager with origin := some pager.firstTable, course := .refused (dbError error) }

/-- What happens next. -/
inductive Action where
  /-- Somebody does something in the database. -/
  | database (action : Store.Action)
  /-- The client asks for its next page, of a size. -/
  | page (first : Int32)

/-- The next request, and how it ends. -/
def request (caller : Uuid) (pager : Pager) (first : Int32) : Option (Except SqlxError Ending) :=
  atomicRequest caller first (cursorOf pager.nodes) pager.store.rows

/-- One step. -/
def step (caller : Uuid) (pager : Pager) : Action → Option Pager
  | .database action => match pager.store.step action with
    | some store => some { pager with store := store }
    | none => none
  | .page first => match pager.course with
    | .goesOn => (pager.request caller first).map pager.answered
    | _ => none

/-- Everything one step can do, with what it was found doing. -/
inductive Moves (caller : Uuid) (pager : Pager) : Action → Pager → Prop where
  /-- Another session takes a step. -/
  | database {action : Store.Action} {store : Store}
      (stepped : pager.store.step action = some store) :
      Moves caller pager (.database action) { pager with store := store }
  /-- A page is given. -/
  | served {first : Int32} {more : List NotificationNode} {hasNextPage : Bool}
      (goesOn : pager.course = .goesOn)
      (given : pager.request caller first =
        some (.ok (.commit (.ok (.connection more hasNextPage))))) :
      Moves caller pager (.page first)
        { pager with
          origin := some pager.firstTable
          nodes := pager.nodes ++ more
          course := if hasNextPage then .goesOn else .ended }
  /-- A page is refused, and the walk is over. -/
  | refused {first : Int32} {error : EdgeError} (goesOn : pager.course = .goesOn) :
      Moves caller pager (.page first)
        { pager with origin := some pager.firstTable, course := .refused error }

variable {pager after : Pager} {caller : Uuid} {initial : List Row}

/-- How a request ends: it is refused exactly where the last node's row is gone, or gives a page,
or meets a row of the caller's that cannot be read. -/
theorem request_cases (pager : Pager) (caller : Uuid) (first : Int32) :
    ((∃ cursor, cursorOf pager.nodes = some cursor ∧
        anchorRow pager.store.rows caller cursor = none) ∧
      pager.request caller first = some (.ok (.commit (.error .notFound)))) ∨
    (CursorResolves caller (cursorOf pager.nodes) pager.store.rows ∧
      ((∃ more hasNextPage, pager.request caller first =
          some (.ok (.commit (.ok (.connection more hasNextPage))))) ∨
        ∃ error, pager.request caller first = some (.error (corrupt error)) ∧
          ∃ row ∈ pager.store.rows, row.recipientId = caller ∧
            Notification.fromRow row = .error error)) := by
  rcases page_cases caller first (cursorOf pager.nodes) pager.store.rows with
    refused | ⟨resolves, paged⟩
  · exact Or.inl refused
  · refine Or.inr ⟨resolves, ?_⟩
    obtain ⟨limit, -, ⟨notifications, -, page⟩ | ⟨error, failed, page⟩⟩ :=
      pageOf_cases caller first (cursorOf pager.nodes) pager.store.rows
    · left
      exact ⟨_, _, paged.trans (congrArg some page)⟩
    · right
      obtain ⟨row, selected, unreadable⟩ := hydrateAll_error failed
      obtain ⟨member, own, -⟩ := mem_listed.mp (List.mem_of_mem_take selected)
      exact ⟨error, paged.trans (congrArg some page), row, member, own, unreadable⟩

/-- A step does one of these things. -/
theorem moves_of_step {action : Action} (stepped : pager.step caller action = some after) :
    pager.Moves caller action after := by
  cases action with
  | database action =>
    simp only [step] at stepped
    split at stepped
    · rename_i store moved
      obtain rfl := Option.some.inj stepped
      exact .database moved
    · contradiction
  | page first =>
    simp only [step] at stepped
    split at stepped
    · rename_i goesOn
      rcases pager.request_cases caller first with
        ⟨-, refused⟩ | ⟨-, ⟨more, hasNextPage, page⟩ | ⟨error, failed, -⟩⟩
      · rw [refused] at stepped
        obtain rfl := Option.some.inj stepped
        exact .refused goesOn
      · rw [page] at stepped
        obtain rfl := Option.some.inj stepped
        exact .served goesOn page
      · rw [failed] at stepped
        obtain rfl := Option.some.inj stepped
        exact .refused goesOn
    · contradiction

/-! ## Every run -/

/-- What holds of a walk in every run. -/
structure Keeps (initial : List Row) (caller : Uuid) (pager : Pager) : Prop where
  /-- The database is sound. -/
  sound : Store.Sound initial pager.store
  /-- Every id is inserted once. -/
  single : pager.store.Single
  /-- What was given shows rows of the caller, in order. -/
  given : Given caller pager.nodes pager.store
  /-- Nothing is given before the first request. -/
  begun : pager.origin = none → pager.nodes = [] ∧ pager.course = .goesOn
  /-- The rows of the first table were inserted. -/
  used : ∀ row ∈ pager.firstTable, row.id ∈ pager.store.history.map Write.id
  /-- A row of the caller's that was there at the first request has been given, or is ahead. -/
  complete : ∀ row ∈ pager.store.rows, row.recipientId = caller →
    row.id ∈ pager.firstTable.map Row.id →
    row.id ∈ pager.nodes.map NotificationNode.id ∨
      pager.course ≠ .ended ∧ Below pager.nodes row.position

/-- A row in the table was inserted. -/
theorem id_used {store : Store} (sound : Store.Sound initial store) {row : Row}
    (member : row ∈ store.rows) : row.id ∈ store.history.map Write.id := by
  obtain ⟨first, inserted, isFirst⟩ := sound.consistent.born row member
  have same : first.id = row.id := by rw [isFirst]
  rw [← same]
  exact List.mem_map_of_mem inserted

/-- Nothing has been asked for yet. -/
theorem opening_keeps {table : Notifications} {store : Store}
    (reached : Store.Reachable table store) : (opening store).Keeps table.rows caller := by
  have sound := reached.sound
  have keeps : ∀ (s : Store) (a : Store.Action) (t : Store),
      Store.Sound table.rows s ∧ s.Single → anyStep s a → s.step a = some t →
      Store.Sound table.rows t ∧ t.Single := by
    intro s a t held _ stepped
    exact ⟨Store.sound_step held.1 stepped, Store.single_step held.1 held.2 stepped⟩
  have single := (Reaches.invariant reached keeps
    ⟨Store.start_sound table, Store.start_single table⟩).2
  refine ⟨sound, single, given_nothing, fun _ => ⟨rfl, rfl⟩, ?_, ?_⟩
  · intro row member
    exact id_used sound member
  · intro row member own there
    refine Or.inr ⟨?_, ?_⟩
    · intro ended
      contradiction
    · intro last absent
      contradiction

/-- A step of the database keeps the walk where it is. -/
theorem Keeps.database (keeps : pager.Keeps initial caller) {action : Store.Action}
    {store : Store} (stepped : pager.store.step action = some store) :
    ({ pager with store := store } : Pager).Keeps initial caller := by
  have history := (Store.history_grows stepped).subset
  have sound := Store.sound_step keeps.sound stepped
  have single := Store.single_step keeps.sound keeps.single stepped
  refine ⟨sound, single, keeps.given.mono history, keeps.begun, ?_, ?_⟩
  · intro row member
    cases asked : pager.origin with
    | none =>
      rw [firstTable, asked] at member
      exact id_used sound member
    | some rows =>
      have used := keeps.used
      rw [firstTable, asked] at member used
      obtain ⟨write, inside, same⟩ := List.mem_map.mp (used row member)
      exact List.mem_map.mpr ⟨write, history inside, same⟩
  · intro row member own there
    cases asked : pager.origin with
    | none =>
      obtain ⟨nothing, goesOn⟩ := keeps.begun asked
      right
      show pager.course ≠ .ended ∧ Below pager.nodes row.position
      rw [nothing, goesOn]
      refine ⟨?_, ?_⟩
      · intro ended
        contradiction
      · intro last absent
        contradiction
    | some rows =>
      have used := keeps.used
      have complete := keeps.complete
      rw [firstTable, asked] at there used complete
      obtain ⟨first, inside, same⟩ := List.mem_map.mp there
      obtain ⟨before, was, owned, position⟩ :=
        keeps.sound.was_there stepped member (same ▸ used first inside)
      obtain ⟨owner, sameId⟩ := Prod.mk.inj owned
      rw [← sameId] at there
      have held := complete before was (owner.trans own) there
      rw [sameId, position] at held
      exact held

/-- A page that is given, and what is ahead of it. -/
theorem Keeps.served (keeps : pager.Keeps initial caller) {first : Int32}
    {more : List NotificationNode} {hasNextPage : Bool}
    (given : pager.request caller first =
      some (.ok (.commit (.ok (.connection more hasNextPage))))) {row : Row}
    (member : row ∈ pager.store.rows) (own : row.recipientId = caller)
    (there : row.id ∈ pager.firstTable.map Row.id) :
    row.id ∈ (pager.nodes ++ more).map NotificationNode.id ∨
      hasNextPage = true ∧ Below (pager.nodes ++ more) row.position := by
  rw [List.map_append, List.mem_append]
  rcases keeps.complete row member own there with old | ahead
  · exact Or.inl (Or.inl old)
  · have covered := keeps.given.covers keeps.sound keeps.single given member own ahead.2
    rcases covered with ⟨node, new, same⟩ | below
    · have sameId : node.id = row.id := (congrArg Prod.fst same).symm
      exact Or.inl (Or.inr (List.mem_map.mpr ⟨node, new, sameId⟩))
    · exact Or.inr below

/-- Every step keeps the walk in order. -/
theorem keeps_step {action : Action} (keeps : pager.Keeps initial caller)
    (stepped : pager.step caller action = some after) : after.Keeps initial caller := by
  cases moves_of_step stepped with
  | database moved => exact keeps.database moved
  | @served first more hasNextPage goesOn given =>
    refine ⟨keeps.sound, keeps.single, keeps.given.page keeps.sound keeps.single given, ?_,
      keeps.used, ?_⟩
    · intro absent
      contradiction
    · intro row member own there
      rcases keeps.served given member own there with held | ⟨next, below⟩
      · exact Or.inl held
      · refine Or.inr ⟨?_, below⟩
        show (if hasNextPage then Course.goesOn else .ended) ≠ .ended
        rw [if_pos next]
        intro ended
        contradiction
  | refused goesOn =>
    refine ⟨keeps.sound, keeps.single, keeps.given, ?_, keeps.used, ?_⟩
    · intro absent
      contradiction
    · intro row member own there
      rcases keeps.complete row member own there with held | ⟨-, below⟩
      · exact Or.inl held
      · refine Or.inr ⟨?_, below⟩
        intro ended
        contradiction

/-- Every run keeps the walk. -/
theorem keeps_of_reaches {table : Notifications} {store : Store}
    (reached : Store.Reachable table store)
    (walked : Reaches (step caller) anyStep (opening store) pager) :
    pager.Keeps table.rows caller := by
  have keeps : ∀ (s : Pager) (a : Action) (t : Pager), s.Keeps table.rows caller →
      anyStep s a → s.step caller a = some t → t.Keeps table.rows caller :=
    fun _ _ _ keeps _ stepped => keeps_step keeps stepped
  exact walked.invariant keeps (opening_keeps reached)

/-! ## What a request is answered -/

/-- A page with a next one is not empty, and there is a next one exactly where the caller has
rows below the last node. -/
theorem Keeps.next (keeps : pager.Keeps initial caller) {first : Int32}
    {more : List NotificationNode} {hasNextPage : Bool}
    (given : pager.request caller first =
      some (.ok (.commit (.ok (.connection more hasNextPage))))) :
    (hasNextPage = true → more ≠ []) ∧
      (hasNextPage = true ↔ ∃ row ∈ pager.store.rows, row.recipientId = caller ∧
        Below (pager.nodes ++ more) row.position) := by
  have paged := keeps.given.page keeps.sound keeps.single given
  obtain ⟨resolves, limit, notifications, positive, hydrated, isMore, next⟩ := page_spec given
  have order := listed_descending caller (cursorOf pager.nodes)
    keeps.sound.consistent.unique.ids
  have faces := hydrateAll_faces hydrated
  rw [← isMore] at faces
  have nonempty : hasNextPage = true → more ≠ [] := by
    intro more_ nothing
    have long := next.mp more_
    have size := congrArg List.length faces
    rw [nothing, List.length_map, List.length_map, List.length_take, List.length_nil] at size
    omega
  refine ⟨nonempty, ?_, ?_⟩
  · intro more_
    obtain ⟨row, selected, below⟩ := (next_page_iff order).mp (next.mp more_)
    obtain ⟨member, own, -⟩ := mem_listed.mp selected
    refine ⟨row, member, own, ?_⟩
    intro last isLast
    -- The last node is on the page, which is not empty.
    have isNew : more.getLast? = some last := by
      rw [List.getLast?_append, List.getLast?_eq_some_getLast (nonempty more_)] at isLast
      rw [List.getLast?_eq_some_getLast (nonempty more_)]
      exact isLast
    have face : last.face ∈ more.map NotificationNode.face :=
      List.mem_map_of_mem (List.mem_of_getLast? isNew)
    rw [faces] at face
    obtain ⟨shown, inside, same⟩ := List.mem_map.mp face
    rw [← position_of_face same]
    exact below shown inside
  · intro found
    obtain ⟨row, member, own, below⟩ := found
    have ahead : Below pager.nodes row.position := by
      intro last isLast
      exact below.all paged.descending (List.mem_append_left more (List.mem_of_getLast? isLast))
    rcases keeps.given.covers keeps.sound keeps.single given member own ahead with
      ⟨node, new, same⟩ | ⟨more_, -⟩
    · have lower := below.all paged.descending (List.mem_append_right pager.nodes new)
      rw [position_of_face same] at lower
      exact absurd lower (lt_irrefl _)
    · exact more_

/-- The node shows the row, as it is read. -/
def Shows (row : Row) (node : NotificationNode) : Prop :=
  ∃ notification, Notification.fromRow row = .ok notification ∧
    node = NotificationNode.from notification

/-- A node shows the face of its row. -/
theorem face_of_shows {row : Row} {node : NotificationNode} (shows_ : Shows row node) :
    row.face = node.face := by
  obtain ⟨notification, content, isNode⟩ := shows_
  obtain ⟨sameId, readAt, createdAt⟩ := fromRow_same content
  rw [isNode]
  show (row.id, row.createdAt, row.readAt) =
    (notification.id, notification.createdAt, notification.readAt)
  rw [sameId, readAt, createdAt]

/-- A page shows rows of the caller. -/
theorem page_shows {first : Int32} {more : List NotificationNode} {hasNextPage : Bool}
    (given : pager.request caller first =
      some (.ok (.commit (.ok (.connection more hasNextPage)))))
    {node : NotificationNode} (member : node ∈ more) :
    ∃ row ∈ pager.store.rows, row.recipientId = caller ∧ Shows row node := by
  obtain ⟨-, limit, notifications, -, hydrated, isMore, -⟩ := page_spec given
  rw [isMore] at member
  obtain ⟨notification, inside, same⟩ := List.mem_map.mp member
  obtain ⟨row, selected, content⟩ := mem_hydrateAll hydrated inside
  obtain ⟨there, own, -⟩ := mem_listed.mp (List.mem_of_mem_take selected)
  exact ⟨row, there, own, notification, content, same.symm⟩

/-- What the next request of a walk is answered, at the moment it is made. -/
structure Serves (caller : Uuid) (pager : Pager) (first : Int32) : Prop where
  /-- It is refused exactly where the row of its cursor is gone. -/
  refused : pager.request caller first = some (.ok (.commit (.error .notFound))) ↔
    ∃ last, pager.nodes.getLast? = some last ∧
      ∀ row ∈ pager.store.rows, row.owned ≠ (caller, last.id)
  /-- Else it is given a page, or fails on a row of the caller's that cannot be read. -/
  otherwise : pager.request caller first = some (.ok (.commit (.error .notFound))) ∨
    (∃ more hasNextPage, pager.request caller first =
      some (.ok (.commit (.ok (.connection more hasNextPage))))) ∨
    ∃ error, pager.request caller first = some (.error (corrupt error)) ∧
      ∃ row ∈ pager.store.rows, row.recipientId = caller ∧
        Notification.fromRow row = .error error
  /-- A page shows rows of the caller. -/
  shows_ : ∀ more hasNextPage, pager.request caller first =
      some (.ok (.commit (.ok (.connection more hasNextPage)))) →
    ∀ node ∈ more, ∃ row ∈ pager.store.rows, row.recipientId = caller ∧ Shows row node
  /-- A page that has a next one is not empty. -/
  nonempty : ∀ more, pager.request caller first =
      some (.ok (.commit (.ok (.connection more true)))) → more ≠ []
  /-- There is a next page exactly where the caller has rows below the last node. -/
  next : ∀ more hasNextPage, pager.request caller first =
      some (.ok (.commit (.ok (.connection more hasNextPage)))) →
    (hasNextPage = true ↔ ∃ row ∈ pager.store.rows, row.recipientId = caller ∧
      Below (pager.nodes ++ more) row.position)
  /-- The last page completes the walk: what was there at its first request and is still there
  has been given once. -/
  complete : ∀ more, pager.request caller first =
      some (.ok (.commit (.ok (.connection more false)))) →
    ∀ row ∈ pager.store.rows, row.recipientId = caller →
      row.id ∈ pager.firstTable.map Row.id →
      ((pager.nodes ++ more).map NotificationNode.id).count row.id = 1

/-- No row that a cursor could name. -/
theorem anchorRow_none {rows : List Row} {recipientId cursor : Uuid} :
    anchorRow rows recipientId cursor = none ↔
      ∀ row ∈ rows, row.owned ≠ (recipientId, cursor) := by
  rw [anchorRow, List.find?_eq_none]
  apply forall₂_congr
  intro row member
  simp only [Bool.and_eq_true, beq_iff_eq]
  constructor
  · intro other owned
    obtain ⟨own, same⟩ := Prod.mk.inj owned
    exact other ⟨same, own⟩
  · intro other owned
    exact other (Prod.ext owned.2 owned.1)

/-- Every request of a walk is answered so. -/
theorem Keeps.serves (keeps : pager.Keeps initial caller) (first : Int32) :
    pager.Serves caller first := by
  have cases_ := pager.request_cases caller first
  have otherwise : pager.request caller first = some (.ok (.commit (.error .notFound))) ∨
      (∃ more hasNextPage, pager.request caller first =
        some (.ok (.commit (.ok (.connection more hasNextPage))))) ∨
      ∃ error, pager.request caller first = some (.error (corrupt error)) ∧
        ∃ row ∈ pager.store.rows, row.recipientId = caller ∧
          Notification.fromRow row = .error error := by
    rcases cases_ with ⟨-, refused⟩ | ⟨-, page⟩
    · exact Or.inl refused
    · exact Or.inr page
  refine ⟨?_, otherwise, fun more hasNextPage given node => page_shows given, ?_, ?_, ?_⟩
  · constructor
    · intro refused
      rcases cases_ with ⟨⟨cursor, named, gone⟩, -⟩ |
        ⟨-, ⟨more, hasNextPage, page⟩ | ⟨error, failed, -⟩⟩
      · obtain ⟨last, isLast, sameId⟩ := Option.map_eq_some_iff.mp named
        rw [← sameId] at gone
        exact ⟨last, isLast, anchorRow_none.mp gone⟩
      · rw [refused] at page
        cases page
      · rw [refused] at failed
        cases failed
    · intro found
      obtain ⟨last, isLast, gone⟩ := found
      have named : cursorOf pager.nodes = some last.id := by
        rw [cursorOf, isLast]
        rfl
      rcases cases_ with ⟨-, refused⟩ | ⟨resolves, -⟩
      · exact refused
      · obtain ⟨anchor, there⟩ := resolves last.id named
        rw [anchorRow_none.mpr gone] at there
        contradiction
  · intro more given
    exact (keeps.next given).1 rfl
  · intro more hasNextPage given
    exact (keeps.next given).2
  · intro more given row member own there
    have distinct := (keeps.given.page keeps.sound keeps.single given).distinct keeps.single
    apply List.count_eq_one_of_mem distinct
    rcases keeps.served given member own there with held | ⟨next, -⟩
    · exact held
    · contradiction

/-! ## On an unchanging table -/

/-- A walk that has met one table throughout. -/
structure Stays (caller : Uuid) (store : Store) (pager : Pager) : Prop where
  /-- The database is as it was. -/
  unchanged : pager.store = store
  /-- The table at the first request was this one. -/
  origin : pager.firstTable = store.rows
  /-- A node shows a row as it is. -/
  shows_ : ∀ node ∈ pager.nodes, ∃ row ∈ store.rows, row.recipientId = caller ∧ Shows row node
  /-- Only a row that cannot be read is a reason to refuse. -/
  refused : ∀ error, pager.course = .refused error →
    ∃ row ∈ store.rows, row.recipientId = caller ∧
      ∃ corrupted, Notification.fromRow row = .error corrupted

/-- The next page of a walk over one table: it goes on with more nodes, or stops. -/
theorem Stays.page {store : Store} (stays : pager.Stays caller store)
    (keeps : pager.Keeps initial caller) (goesOn : pager.course = .goesOn) (first : Int32) :
    ∃ after, pager.step caller (.page first) = some after ∧ after.Stays caller store ∧
      (after.course = .goesOn → pager.nodes.length < after.nodes.length) := by
  have stepped : ∀ ending, pager.request caller first = some ending →
      pager.step caller (.page first) = some (pager.answered ending) := by
    intro ending given
    simp only [step, goesOn, given, Option.map_some]
  have serves := keeps.serves first
  rcases serves.otherwise with refused | ⟨more, hasNextPage, given⟩ | ⟨error, failed, found⟩
  · -- The row of the cursor is where it was.
    exfalso
    obtain ⟨last, isLast, gone⟩ := serves.refused.mp refused
    obtain ⟨row, member, own, shown⟩ := stays.shows_ last (List.mem_of_getLast? isLast)
    have sameId : row.id = last.id := congrArg Prod.fst (face_of_shows shown)
    rw [stays.unchanged] at gone
    exact gone row member (Prod.ext own sameId)
  · refine ⟨_, stepped _ given, ⟨stays.unchanged, stays.origin, ?_, ?_⟩, ?_⟩
    · intro node member
      rcases List.mem_append.mp member with old | new
      · exact stays.shows_ node old
      · rw [← stays.unchanged]
        exact serves.shows_ more hasNextPage given node new
    · intro error refused
      have course : (if hasNextPage then Course.goesOn else .ended) = .refused error := refused
      split at course <;> contradiction
    · intro still
      show pager.nodes.length < (pager.nodes ++ more).length
      have course : (if hasNextPage then Course.goesOn else .ended) = .goesOn := still
      cases hasNextPage with
      | false => contradiction
      | true =>
        have some_ := List.length_pos_iff.mpr (serves.nonempty more given)
        rw [List.length_append]
        omega
  · refine ⟨_, stepped _ failed, ⟨stays.unchanged, stays.origin, stays.shows_, ?_⟩, ?_⟩
    · intro _ _
      obtain ⟨row, member, own, unreadable⟩ := found
      rw [stays.unchanged] at member
      exact ⟨row, member, own, error, unreadable⟩
    · intro still
      contradiction

/-- The pages a client asks for, of these sizes. -/
def asks (sizes : Nat → Int32) (count : Nat) : List Action :=
  (List.range count).map fun index => .page (sizes index)

/-- The ids of a recipient's rows. -/
def idsOf (caller : Uuid) (rows : List Row) : List Uuid :=
  (rows.filter fun row => row.recipientId == caller).map Row.id

/-- After so many pages a walk over one table has stopped, or has that many nodes. -/
theorem walks_on {table : Notifications} {store : Store}
    (reached : Store.Reachable table store) (caller : Uuid) (sizes : Nat → Int32) (bound : Nat) :
    ∃ count pager, Steps (step caller) anyStep (opening store) (asks sizes count) pager ∧
      pager.Stays caller store ∧
      (pager.course = .goesOn → count = bound ∧ bound ≤ pager.nodes.length) := by
  induction bound with
  | zero =>
    refine ⟨0, opening store, .refl _, ⟨rfl, rfl, ?_, ?_⟩, fun _ => ⟨rfl, Nat.zero_le _⟩⟩
    · intro node absent
      contradiction
    · intro error refused
      contradiction
  | succ bound ih =>
    obtain ⟨count, pager, run, stays, longer⟩ := ih
    cases course : pager.course with
    | goesOn =>
      obtain ⟨rfl, grown⟩ := longer course
      have keeps := keeps_of_reaches reached ⟨_, run⟩
      obtain ⟨after, stepped, stays', more⟩ := stays.page keeps course (sizes count)
      refine ⟨count + 1, after, ?_, stays', ?_⟩
      · rw [asks, List.range_succ, List.map_append]
        exact run.snoc trivial stepped
      · intro still
        have longer := more still
        exact ⟨rfl, by omega⟩
    | ended =>
      refine ⟨count, pager, run, stays, ?_⟩
      intro still
      rw [course] at still
      contradiction
    | refused error =>
      refine ⟨count, pager, run, stays, ?_⟩
      intro still
      rw [course] at still
      contradiction

/-- What a walk over one table has given is of the recipient's rows, each once. -/
theorem Stays.ids {store : Store} (stays : pager.Stays caller store) :
    pager.nodes.map NotificationNode.id ⊆ idsOf caller store.rows := by
  intro id given
  obtain ⟨node, inside, sameId⟩ := List.mem_map.mp given
  obtain ⟨row, member, own, shown⟩ := stays.shows_ node inside
  have rowId : row.id = node.id := congrArg Prod.fst (face_of_shows shown)
  rw [← sameId, ← rowId]
  exact List.mem_map_of_mem (List.mem_filter.mpr ⟨member, beq_iff_eq.mpr own⟩)

/-- A walk over one table stops: at its end, with the recipient's rows, or at one of them that
was never readable. -/
theorem walk_stops {table : Notifications} {store : Store}
    (reached : Store.Reachable table store) (caller : Uuid) (sizes : Nat → Int32) :
    ∃ count pager, Steps (step caller) anyStep (opening store) (asks sizes count) pager ∧
      (pager.course = .ended ∧
        (pager.nodes.map NotificationNode.id).Perm (idsOf caller store.rows) ∧
        (∀ node ∈ pager.nodes, ∃ row ∈ store.rows, row.recipientId = caller ∧ Shows row node) ∨
      (∃ error, pager.course = .refused error) ∧ ∃ row ∈ table.rows, row.recipientId = caller ∧
        ∃ corrupted, Notification.fromRow row = .error corrupted) := by
  obtain ⟨count, pager, run, stays, longer⟩ :=
    walks_on reached caller sizes ((idsOf caller store.rows).length + 1)
  have keeps := keeps_of_reaches reached ⟨_, run⟩
  have distinct := keeps.given.distinct keeps.single
  refine ⟨count, pager, run, ?_⟩
  cases course : pager.course with
  | goesOn =>
    -- There are not so many rows.
    exfalso
    have fewer := (List.subperm_of_subset distinct stays.ids).length_le
    rw [List.length_map] at fewer
    have more := (longer course).2
    omega
  | refused error =>
    right
    obtain ⟨row, member, own, corrupted, unreadable⟩ := stays.refused error course
    obtain ⟨first, inside, owner, still⟩ := reached.sound.unreadable member unreadable
    exact ⟨⟨error, rfl⟩, first, inside, owner.trans own, corrupted, still⟩
  | ended =>
    left
    refine ⟨rfl, ?_, stays.shows_⟩
    have ids := reached.sound.consistent.unique.ids
    have others : (idsOf caller store.rows).Nodup := (List.filter_sublist.map Row.id).nodup ids
    rw [List.perm_ext_iff_of_nodup distinct others]
    intro id
    refine ⟨fun given => stays.ids given, ?_⟩
    intro held
    obtain ⟨row, inside, sameId⟩ := List.mem_map.mp held
    obtain ⟨member, own⟩ := List.mem_filter.mp inside
    have there : row.id ∈ pager.firstTable.map Row.id := by
      rw [stays.origin]
      exact List.mem_map_of_mem member
    rw [← stays.unchanged] at member
    rw [← sameId]
    rcases keeps.complete row member (beq_iff_eq.mp own) there with given | ⟨unended, -⟩
    · exact given
    · exact absurd course unended

end Pager

/-- Walks by cursor, whatever anybody commits between their requests and whatever sizes they ask
for: the nodes given are in strictly descending order, none twice, each of a row of the
recipient's, and every request is answered as `Serves` says. On one table a walk stops, with all
of the recipient's rows and nothing else; it can only fail on a row that the table was started
with and that no `from_row` reads. -/
theorem cursor_walks (table : Notifications) (store : Store)
    (reached : Store.Reachable table store) (caller : Uuid) :
    (∀ pager, Reaches (Pager.step caller) anyStep (Pager.opening store) pager →
      pager.nodes.Pairwise (fun left right => right.position < left.position) ∧
      (pager.nodes.map NotificationNode.id).Nodup ∧
      (∀ node ∈ pager.nodes, pager.store.Owned caller node.id) ∧
      ∀ first, pager.Serves caller first) ∧
    ∀ sizes : Nat → Int32, ∃ count pager,
      Steps (Pager.step caller) anyStep (Pager.opening store) (Pager.asks sizes count) pager ∧
      (pager.course = .ended ∧
        (pager.nodes.map NotificationNode.id).Perm (Pager.idsOf caller store.rows) ∧
        (∀ node ∈ pager.nodes, ∃ row ∈ store.rows, row.recipientId = caller ∧
          Pager.Shows row node) ∨
      (∃ error, pager.course = .refused error) ∧ ∃ row ∈ table.rows, row.recipientId = caller ∧
        ∃ corrupted, Notification.fromRow row = .error corrupted) := by
  constructor
  · intro pager walked
    have keeps := Pager.keeps_of_reaches reached walked
    refine ⟨keeps.given.descending, keeps.given.distinct keeps.single, ?_, keeps.serves⟩
    intro node member
    obtain ⟨first, inserted, owned, -⟩ := keeps.given.shown node member
    exact ⟨first, inserted, owned⟩
  · exact Pager.walk_stops reached caller

/-- A table with three rows of a recipient's, two of them made at one instant. -/
def sampleInbox : Notifications where
  rows := [sampleRow 1 2, { sampleRow 1 3 with createdAt := ⟨4000⟩ }, sampleRow 1 4]
  unique := ⟨by decide, by decide⟩

/-- A walk in pages of one that is asked for sizes no list has, during which the second row is
deleted. -/
def sampleWalk : List Pager.Action :=
  [.page (-5),
    .database (.begin 1 (.deleteNotification (sampleId 1) (sampleId 3)) ⟨9500⟩),
    .database (.advance 1), .database (.advance 1), .database (.visit 1 0),
    .database (.finish 1), .database (.advance 1), .database (.commit 1),
    .page 0]

/-- Where `sampleWalk` leads. -/
def sampleWalked : Pager :=
  (play (Pager.step (sampleId 1)) (Pager.opening (Store.start sampleInbox.rows)) sampleWalk).get
    (by decide)

/-- The walk has given the two rows that were there all the while, the newest first. -/
theorem cursor_walks_sample :
    (sampleWalked.nodes.map NotificationNode.id).Nodup ∧
    (∀ first, sampleWalked.Serves (sampleId 1) first) ∧
    sampleWalked.nodes.map NotificationNode.id = [sampleId 4, sampleId 2] := by
  have walks := (cursor_walks sampleInbox (Store.start sampleInbox.rows) (.refl _) (sampleId 1)).1
  have walked := walks sampleWalked (reaches_of_play (Option.some_get _).symm)
  exact ⟨walked.2.1, walked.2.2.2, by decide⟩

end SvcNotifier
