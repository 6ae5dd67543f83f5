import SvcNotifier.Library.Keyset
import SvcNotifier.Reconnect

/-!
# Walking the list while it changes

The place of a row in its owner's list never changes, so a walk by cursor gives every row that
is there all the while: it is among the nodes given so far, or it lies below the last of them.
What a page shows of a row is of the time of the page.
-/

namespace SvcNotifier

open Library Program

/-! ## One page -/

/-- What a page shows of a row, besides its content. -/
def Row.face (row : Row) : Uuid × DateTime × Option DateTime :=
  (row.id, row.createdAt, row.readAt)

/-- What a node shows of its row, besides its content. -/
def NotificationNode.face (node : NotificationNode) : Uuid × DateTime × Option DateTime :=
  (node.id, node.createdAt, node.readAt)

/-- The place of a node's row in the list. -/
def NotificationNode.position (node : NotificationNode) : DateTime ×ₗ Uuid :=
  toLex (node.createdAt, node.id)

/-- Rows are hydrated one by one. -/
theorem hydrateAll_faces {rows : List Row} {notifications : List Notification}
    (hydrated : hydrateAll rows = .ok notifications) :
    (notifications.map NotificationNode.from).map NotificationNode.face = rows.map Row.face := by
  induction rows generalizing notifications with
  | nil =>
    obtain rfl : [] = notifications := Except.ok.inj hydrated
    rfl
  | cons row rows ih =>
    rw [hydrateAll] at hydrated
    cases content : Notification.fromRow row with
    | error error =>
      rw [content] at hydrated
      contradiction
    | ok notification =>
      cases others : hydrateAll rows with
      | error error =>
        rw [content, others] at hydrated
        contradiction
      | ok rest =>
        rw [content, others] at hydrated
        obtain rfl : notification :: rest = notifications := Except.ok.inj hydrated
        obtain ⟨sameId, readAt, createdAt⟩ := fromRow_same content
        rw [List.map_cons, List.map_cons, List.map_cons, ih others]
        congr 1
        show (notification.id, notification.createdAt, notification.readAt) = row.face
        rw [sameId, readAt, createdAt]
        rfl

/-- Where hydrating fails, it fails on a row. -/
theorem hydrateAll_error {rows : List Row} {error : HydrationError}
    (failed : hydrateAll rows = .error error) :
    ∃ row ∈ rows, Notification.fromRow row = .error error := by
  induction rows with
  | nil => contradiction
  | cons row rows ih =>
    rw [hydrateAll] at failed
    cases content : Notification.fromRow row with
    | error first =>
      rw [content] at failed
      obtain rfl := Except.error.inj failed
      exact ⟨row, List.mem_cons_self, content⟩
    | ok notification =>
      cases others : hydrateAll rows with
      | error later =>
        rw [content, others] at failed
        obtain rfl := Except.error.inj failed
        obtain ⟨corrupted, member, unreadable⟩ := ih others
        exact ⟨corrupted, List.mem_cons_of_mem row member, unreadable⟩
      | ok rest =>
        rw [content, others] at failed
        contradiction

/-- The rows that are hydrated, each as it is read. -/
theorem mem_hydrateAll {rows : List Row} {notifications : List Notification}
    (hydrated : hydrateAll rows = .ok notifications) {notification : Notification}
    (member : notification ∈ notifications) :
    ∃ row ∈ rows, Notification.fromRow row = .ok notification := by
  induction rows generalizing notifications with
  | nil =>
    obtain rfl : [] = notifications := Except.ok.inj hydrated
    contradiction
  | cons row rows ih =>
    rw [hydrateAll] at hydrated
    cases content : Notification.fromRow row with
    | error error =>
      rw [content] at hydrated
      contradiction
    | ok first =>
      cases others : hydrateAll rows with
      | error error =>
        rw [content, others] at hydrated
        contradiction
      | ok rest =>
        rw [content, others] at hydrated
        obtain rfl : first :: rest = notifications := Except.ok.inj hydrated
        rcases List.mem_cons.mp member with here | later
        · rw [here]
          exact ⟨row, List.mem_cons_self, content⟩
        · obtain ⟨source, inside, same⟩ := ih others later
          exact ⟨source, List.mem_cons_of_mem row inside, same⟩

/-- The rows of a page query: the recipient's below the cursor. -/
theorem mem_listed {caller : Uuid} {after : Option Uuid} {rows : List Row} {row : Row} :
    row ∈ listed (visible caller rows) caller after ↔ row ∈ rows ∧ row.recipientId = caller ∧
      belowCursor (visible caller rows) caller after row = true := by
  have same := List.perm_insertionSort (fun left right : Row => right.position ≤ left.position)
    ((visible caller rows).filter fun row =>
      row.recipientId == caller && belowCursor (visible caller rows) caller after row)
  rw [listed, newestFirst, same.mem_iff, List.mem_filter, visible, List.mem_filter]
  simp only [notificationsAppScope, Bool.and_eq_true, beq_iff_eq, Option.some.injEq]
  constructor
  · rintro ⟨⟨member, -⟩, own, below⟩
    exact ⟨member, own, below⟩
  · rintro ⟨member, own, below⟩
    exact ⟨⟨member, own.symm⟩, own, below⟩

/-- A page query gives its rows in descending order. -/
theorem listed_descending (caller : Uuid) (after : Option Uuid) {rows : List Row}
    (ids : (rows.map Row.id).Nodup) :
    (listed (visible caller rows) caller after).Pairwise fun left right =>
      right.position < left.position := by
  have same := List.perm_insertionSort (fun left right : Row => right.position ≤ left.position)
    ((visible caller rows).filter fun row =>
      row.recipientId == caller && belowCursor (visible caller rows) caller after row)
  have distinct : ((listed (visible caller rows) caller after).map Row.id).Nodup := by
    rw [listed, newestFirst, (same.map Row.id).nodup_iff]
    exact (((List.filter_sublist).trans List.filter_sublist).map Row.id).nodup ids
  have sorted : (listed (visible caller rows) caller after).Pairwise fun left right =>
      right.position ≤ left.position := List.pairwise_insertionSort _ _
  rw [List.Nodup, List.pairwise_map] at distinct
  apply (sorted.and distinct).imp
  rintro left right ⟨below, other⟩
  apply lt_of_le_of_ne below
  intro position
  exact other (congrArg (fun place => (ofLex place).2) position).symm

/-- A cursor that resolves names a row of the caller. -/
def CursorResolves (caller : Uuid) (after : Option Uuid) (rows : List Row) : Prop :=
  ∀ cursor, after = some cursor → ∃ anchor, anchorRow rows caller cursor = some anchor

/-- A page request is refused for its cursor, or answered by its page query. -/
theorem page_cases (caller : Uuid) (first : Int32) (after : Option Uuid) (rows : List Row) :
    ((∃ cursor, after = some cursor ∧ anchorRow rows caller cursor = none) ∧
      atomicRequest caller first after rows = some (.ok (.commit (.error .notFound)))) ∨
    (CursorResolves caller after rows ∧
      atomicRequest caller first after rows = some (pageOf caller first after rows)) := by
  cases after with
  | none =>
    right
    refine ⟨by simp [CursorResolves], ?_⟩
    rw [atomicRequest, pageRequest_first]
  | some cursor =>
    cases found : anchorRow (visible caller rows) caller cursor with
    | none =>
      left
      have gone : anchorRow rows caller cursor = none := by
        rw [← anchorRow_visible]
        exact found
      refine ⟨⟨cursor, rfl, gone⟩, ?_⟩
      rw [atomicRequest, pageRequest_refused found]
    | some anchor =>
      right
      have there : (anchorRow (visible caller rows) caller cursor).isSome = true := by
        rw [found]
        rfl
      constructor
      · intro other same
        obtain rfl := Option.some.inj same
        rw [anchorRow_visible] at found
        exact ⟨anchor, found⟩
      · rw [atomicRequest, pageRequest_paged there]

/-- A page query lists the first rows it selects, or meets one of them that it cannot read. -/
theorem pageOf_cases (caller : Uuid) (first : Int32) (after : Option Uuid) (rows : List Row) :
    ∃ limit, 0 < limit ∧
      ((∃ notifications, hydrateAll ((listed (visible caller rows) caller after).take limit) =
          .ok notifications ∧
        pageOf caller first after rows =
          .ok (.commit (.ok (.connection (notifications.map NotificationNode.from)
            (decide (limit < (listed (visible caller rows) caller after).length)))))) ∨
      ∃ error, hydrateAll ((listed (visible caller rows) caller after).take limit) =
          .error error ∧
        pageOf caller first after rows = .error (corrupt error)) := by
  have positive := clampFirst_pos first.toInt
  refine ⟨(clampFirst first.toInt).toNat, by omega, ?_⟩
  have shorter : (((listed (visible caller rows) caller after).take
      (clampFirst first.toInt + 1).toNat).take (clampFirst first.toInt).toNat) =
      (listed (visible caller rows) caller after).take (clampFirst first.toInt).toNat := by
    have least : min (clampFirst first.toInt).toNat (clampFirst first.toInt + 1).toNat =
        (clampFirst first.toInt).toNat := by omega
    rw [List.take_take, least]
  simp only [pageOf, shorter]
  cases hydrated : hydrateAll ((listed (visible caller rows) caller after).take
      (clampFirst first.toInt).toNat) with
  | error error => exact Or.inr ⟨error, rfl, rfl⟩
  | ok notifications =>
    left
    refine ⟨notifications, rfl, ?_⟩
    have longer : clampFirst first.toInt < (((listed (visible caller rows) caller after).take
        (clampFirst first.toInt + 1).toNat).length : Int) ↔
        (clampFirst first.toInt).toNat <
          (listed (visible caller rows) caller after).length := by
      rw [List.length_take]
      omega
    rw [decide_eq_decide.mpr longer]

/-- What a page that is answered holds. -/
theorem page_spec {caller : Uuid} {first : Int32} {after : Option Uuid} {rows : List Row}
    {more : List NotificationNode} {hasNextPage : Bool}
    (answered : atomicRequest caller first after rows =
      some (.ok (.commit (.ok (.connection more hasNextPage))))) :
    CursorResolves caller after rows ∧ ∃ limit notifications, 0 < limit ∧
      hydrateAll ((listed (visible caller rows) caller after).take limit) = .ok notifications ∧
      more = notifications.map NotificationNode.from ∧
      (hasNextPage = true ↔ limit < (listed (visible caller rows) caller after).length) := by
  rcases page_cases caller first after rows with ⟨-, refused⟩ | ⟨resolves, paged⟩
  · rw [refused] at answered
    cases answered
  · refine ⟨resolves, ?_⟩
    rw [paged, Option.some.injEq] at answered
    obtain ⟨limit, positive, ⟨notifications, hydrated, page⟩ | ⟨error, -, page⟩⟩ :=
      pageOf_cases caller first after rows
    · rw [page, Except.ok.injEq, Ending.commit.injEq, Except.ok.injEq,
        Answer.connection.injEq] at answered
      refine ⟨limit, notifications, positive, hydrated, answered.1.symm, ?_⟩
      rw [← answered.2, decide_eq_true_eq]
    · rw [page] at answered
      cases answered

/-! ## What is told since a moment -/

namespace Store

variable {store after : Store} {initial : List Row} {since : Nat} {id : Uuid}

/-- What signals say of an id. -/
def toldBy (signals : List NotificationSignal) (id : Uuid) : List FactKind :=
  about id ((signals.flatMap NotificationSignal.facts).map fun fact => (fact.kind, fact.id))

/-- What the log says of an id after its first signals. -/
def toldSince (store : Store) (since : Nat) (id : Uuid) : List FactKind :=
  toldBy (store.log.drop since) id

/-- After the first signals of the log, the row has stood so at some time. -/
def StoodSince (initial : List Row) (store : Store) (since : Nat) (id : Uuid) (status : Status) :
    Prop :=
  ∃ first, notificationLifecycle.follow ((start initial).status id)
      (toldBy (store.log.take since) id) = some first ∧
    status ∈ notificationLifecycle.trail first (store.toldSince since id)

/-- What a list of signals says of an id, part by part. -/
theorem toldBy_append (first second : List NotificationSignal) (id : Uuid) :
    toldBy (first ++ second) id = toldBy first id ++ toldBy second id := by
  rw [toldBy, List.flatMap_append, List.map_append, about_append]
  rfl

/-- The log says what it says before a moment and since. -/
theorem told_split (store : Store) (since : Nat) (id : Uuid) :
    store.told id = toldBy (store.log.take since) id ++ store.toldSince since id := by
  rw [toldSince, ← toldBy_append, List.take_append_drop]
  rfl

/-- Where the row stood at a moment leads to where it stands. -/
theorem Recounted.from_moment (recounted : Recounted initial store) (since : Nat) (id : Uuid) :
    ∃ first, notificationLifecycle.follow ((start initial).status id)
        (toldBy (store.log.take since) id) = some first ∧
      notificationLifecycle.follow first (store.toldSince since id) = some (store.status id) := by
  have whole := recounted id
  rw [told_split store since, Lifecycle.follow_append] at whole
  exact Option.bind_eq_some_iff.mp whole

/-- Where a row stands, it has stood since. -/
theorem Recounted.stands_since (recounted : Recounted initial store) (since : Nat) (id : Uuid) :
    store.StoodSince initial since id (store.status id) := by
  obtain ⟨first, before, later⟩ := recounted.from_moment since id
  exact ⟨first, before, notificationLifecycle.mem_trail_of_follow later⟩

/-- The first signals of the log stay. -/
theorem take_log_step {action : Action} (sound : Sound initial store)
    (within : since ≤ store.log.length) (stepped : store.step action = some after) :
    since ≤ after.log.length ∧ after.log.take since = store.log.take since := by
  obtain ⟨writes, queued, applies, -⟩ := applies_of_step sound stepped
  constructor
  · rw [applies.log, List.length_append]
    omega
  · rw [applies.log, List.take_append_of_le_length within]

/-- What a step adds to what is told since a moment. -/
theorem toldSince_step {action : Action} (sound : Sound initial store)
    (within : since ≤ store.log.length) (stepped : store.step action = some after) (id : Uuid) :
    ∃ kinds, after.toldSince since id = store.toldSince since id ++ kinds ∧
      notificationLifecycle.follow (store.status id) kinds = some (after.status id) := by
  obtain ⟨kinds, told, moved⟩ := told_step sound stepped id
  refine ⟨kinds, ?_, moved⟩
  rw [told_split after since, told_split store since, (take_log_step sound within stepped).2,
    List.append_assoc, List.append_cancel_left_eq] at told
  exact told

/-- Where a row has stood since a moment stays so. -/
theorem StoodSince.step {action : Action} {status : Status}
    (stood : store.StoodSince initial since id status) (sound : Sound initial store)
    (within : since ≤ store.log.length) (stepped : store.step action = some after) :
    after.StoodSince initial since id status := by
  obtain ⟨first, before, member⟩ := stood
  obtain ⟨kinds, told, -⟩ := toldSince_step sound within stepped id
  refine ⟨first, ?_, ?_⟩
  · rw [(take_log_step sound within stepped).2]
    exact before
  · rw [told]
    exact (notificationLifecycle.trail_grows _ _ _).subset member

/-- A row in the table is the row inserted under its id, but for its `read_at`. -/
theorem Sound.row_of_insert (sound : Sound initial store) (single : store.Single) {row first : Row}
    (member : row ∈ store.rows) (inserted : .insert first ∈ store.history)
    (same : first.id = row.id) : row = { first with readAt := row.readAt } := by
  obtain ⟨born, also, isBorn⟩ := sound.consistent.born row member
  have sameId : born.id = row.id := by rw [isBorn]
  rw [single first born inserted also (same.trans sameId.symm)]
  exact isBorn

/-- A row that has a status of a row that is there is there. -/
theorem row_of_known (known : (store.status id).known ≠ none) :
    ∃ row ∈ store.rows, row.id = id := by
  unfold status at known
  cases found : rowOf store.rows id with
  | some row => exact ⟨row, rowOf_some found⟩
  | none =>
    rw [found] at known
    exfalso
    by_cases used : id ∈ store.history.map Write.id
    · simp [used, Status.known] at known
    · simp [used, Status.known] at known

end Store

/-! ## The nodes given so far -/

/-- A place below every node given so far. -/
def Below (nodes : List NotificationNode) (position : DateTime ×ₗ Uuid) : Prop :=
  ∀ last, nodes.getLast? = some last → position < last.position

/-- What lies below the last of the nodes given lies below all of them. -/
theorem Below.all {nodes : List NotificationNode} {position : DateTime ×ₗ Uuid}
    (below : Below nodes position)
    (descending : nodes.Pairwise fun left right => right.position < left.position)
    {node : NotificationNode} (member : node ∈ nodes) : position < node.position := by
  have nonempty : nodes ≠ [] := List.ne_nil_of_mem member
  have isLast := List.getLast?_eq_some_getLast nonempty
  have lowest := Library.last_lowest descending isLast member
  exact lt_of_lt_of_le (below _ isLast) lowest

/-- The nodes a walk has given, in the order of the list: each shows a row of the caller. -/
structure Given (caller : Uuid) (nodes : List NotificationNode) (store : Store) : Prop where
  /-- They are in the order of the list. -/
  descending : nodes.Pairwise fun left right => right.position < left.position
  /-- Each shows a row that the caller was given. -/
  shown : ∀ node ∈ nodes, ∃ first, .insert first ∈ store.history ∧
    first.owned = (caller, node.id) ∧ first.createdAt = node.createdAt

section

variable {store after : Store} {initial : List Row} {caller : Uuid} {nodes : List NotificationNode}

/-- Nothing has been given yet. -/
theorem given_nothing : Given caller [] store := ⟨List.Pairwise.nil, by simp⟩

/-- What has been given stays given while the table changes. -/
theorem Given.mono (given : Given caller nodes store)
    (history : store.history ⊆ after.history) : Given caller nodes after := by
  refine ⟨given.descending, ?_⟩
  intro node member
  obtain ⟨first, inserted, shows⟩ := given.shown node member
  exact ⟨first, history inserted, shows⟩

/-- No two nodes have the same id. -/
theorem Given.distinct (given : Given caller nodes store) (single : store.Single) :
    (nodes.map NotificationNode.id).Nodup := by
  rw [List.Nodup, List.pairwise_map]
  apply given.descending.imp_of_mem
  intro left right inLeft inRight below same
  -- Both show the one row inserted under the id, so they have one place.
  obtain ⟨first, inserted, owned, shows⟩ := given.shown left inLeft
  obtain ⟨second, also, named, tells⟩ := given.shown right inRight
  have firstId : first.id = left.id := congrArg Prod.snd owned
  have secondId : second.id = right.id := congrArg Prod.snd named
  have one : first = second := by
    apply single first second inserted also
    rw [firstId, secondId, same]
  have position : left.position = right.position := by
    show toLex (left.createdAt, left.id) = toLex (right.createdAt, right.id)
    rw [← shows, ← tells, one, same]
  rw [position] at below
  exact lt_irrefl _ below

/-- What a page query selects below the last node is what lies below it in the list. -/
theorem Given.selects (given : Given caller nodes store) (sound : Store.Sound initial store)
    (single : store.Single) (resolves : CursorResolves caller (cursorOf nodes) store.rows)
    (row : Row) :
    belowCursor (visible caller store.rows) caller (cursorOf nodes) row = true ↔
      Below nodes row.position := by
  cases end_ : nodes.getLast? with
  | none =>
    rw [cursorOf, end_, Below, end_]
    simp [belowCursor]
  | some last =>
    have cursor : cursorOf nodes = some last.id := by
      rw [cursorOf, end_]
      rfl
    obtain ⟨anchor, found⟩ := resolves last.id cursor
    obtain ⟨there, named⟩ := anchorRow_owned found
    obtain ⟨origin, inserted, owned, createdAt⟩ := given.shown last (List.mem_of_getLast? end_)
    have sameId : origin.id = anchor.id :=
      (congrArg Prod.snd owned).trans (congrArg Prod.snd named).symm
    have isOrigin := sound.row_of_insert single there inserted sameId
    have position : anchor.position = last.position := by
      rw [isOrigin]
      show toLex (origin.createdAt, origin.id) = toLex (last.createdAt, last.id)
      rw [createdAt, sameId.trans (congrArg Prod.snd named)]
    rw [cursor, belowCursor, anchorRow_visible, found, decide_eq_true_eq, position, Below, end_]
    simp

/-- A page gives rows of the caller, as they are. -/
theorem mem_page {first : Int32} {cursor : Option Uuid} {more : List NotificationNode}
    {hasNextPage : Bool}
    (answered : atomicRequest caller first cursor store.rows =
      some (.ok (.commit (.ok (.connection more hasNextPage)))))
    {node : NotificationNode} (member : node ∈ more) :
    ∃ row ∈ store.rows, row.recipientId = caller ∧ row.face = node.face ∧
      belowCursor (visible caller store.rows) caller cursor row = true := by
  obtain ⟨-, limit, notifications, -, hydrated, rfl, -⟩ := page_spec answered
  have face : node.face ∈
      ((listed (visible caller store.rows) caller cursor).take limit).map Row.face := by
    rw [← hydrateAll_faces hydrated]
    exact List.mem_map_of_mem member
  obtain ⟨row, selected, same⟩ := List.mem_map.mp face
  obtain ⟨there, own, ahead⟩ := mem_listed.mp (List.mem_of_mem_take selected)
  exact ⟨row, there, own, same, ahead⟩

/-- A node that shows a row's face is at its place. -/
theorem position_of_face {row : Row} {node : NotificationNode} (same : row.face = node.face) :
    row.position = node.position := by
  have parts : row.id = node.id ∧ row.createdAt = node.createdAt :=
    ⟨congrArg Prod.fst same, congrArg (fun face => face.2.1) same⟩
  show toLex (row.createdAt, row.id) = toLex (node.createdAt, node.id)
  rw [parts.1, parts.2]

/-- A page goes on below what has been given. -/
theorem Given.page {first : Int32} {more : List NotificationNode} {hasNextPage : Bool}
    (given : Given caller nodes store) (sound : Store.Sound initial store) (single : store.Single)
    (answered : atomicRequest caller first (cursorOf nodes) store.rows =
      some (.ok (.commit (.ok (.connection more hasNextPage))))) :
    Given caller (nodes ++ more) store := by
  have ids := sound.consistent.unique.ids
  constructor
  · have order : more.Pairwise fun left right => right.position < left.position := by
      obtain ⟨-, limit, notifications, -, hydrated, rfl, -⟩ := page_spec answered
      have places : (notifications.map NotificationNode.from).map NotificationNode.position =
          ((listed (visible caller store.rows) caller (cursorOf nodes)).take limit).map
            Row.position := by
        have same := congrArg
          (List.map fun face => (toLex (face.2.1, face.1) : DateTime ×ₗ Uuid))
          (hydrateAll_faces hydrated)
        rw [List.map_map (l := notifications.map _), List.map_map (l := List.take _ _)] at same
        exact same
      have sorted : ((notifications.map NotificationNode.from).map
          NotificationNode.position).Pairwise fun left right => right < left := by
        rw [places, List.pairwise_map]
        exact (listed_descending _ _ ids).sublist (List.take_sublist _ _)
      exact List.pairwise_map.mp sorted
    refine List.pairwise_append.mpr ⟨given.descending, order, ?_⟩
    intro old before node new
    obtain ⟨row, -, -, same, ahead⟩ := mem_page answered new
    have below := (given.selects sound single (page_spec answered).1 row).mp ahead
    rw [← position_of_face same]
    exact below.all given.descending before
  · intro node member
    rcases List.mem_append.mp member with old | new
    · exact given.shown node old
    · obtain ⟨row, there, own, same, -⟩ := mem_page answered new
      obtain ⟨born, inserted, isBorn⟩ := sound.consistent.born row there
      have parts : row.id = node.id ∧ row.createdAt = node.createdAt :=
        ⟨congrArg Prod.fst same, congrArg (fun face => face.2.1) same⟩
      refine ⟨born, inserted, ?_, ?_⟩
      · rw [← own, ← parts.1, isBorn]
        rfl
      · rw [← parts.2, isBorn]

/-- A row below what has been given is on the page, or still below it. -/
theorem Given.covers {first : Int32} {more : List NotificationNode} {hasNextPage : Bool}
    (given : Given caller nodes store) (sound : Store.Sound initial store) (single : store.Single)
    (answered : atomicRequest caller first (cursorOf nodes) store.rows =
      some (.ok (.commit (.ok (.connection more hasNextPage)))))
    {row : Row} (member : row ∈ store.rows) (own : row.recipientId = caller)
    (ahead : Below nodes row.position) :
    (∃ node ∈ more, row.face = node.face) ∨
      hasNextPage = true ∧ Below (nodes ++ more) row.position := by
  obtain ⟨resolves, limit, notifications, positive, hydrated, rfl, next⟩ := page_spec answered
  have faces := hydrateAll_faces hydrated
  have selected : row ∈ listed (visible caller store.rows) caller (cursorOf nodes) :=
    mem_listed.mpr ⟨member, own, (given.selects sound single resolves row).mpr ahead⟩
  have order := listed_descending caller (cursorOf nodes)
    sound.consistent.unique.ids
  rcases Library.mem_take_or_below order positive selected with
    listedNow | ⟨long, bottom, isBottom, below⟩
  · left
    have face : row.face ∈
        (notifications.map NotificationNode.from).map NotificationNode.face := by
      rw [faces]
      exact List.mem_map_of_mem listedNow
    obtain ⟨node, new, same⟩ := List.mem_map.mp face
    exact ⟨node, new, same.symm⟩
  · right
    refine ⟨next.mpr long, ?_⟩
    intro last isLast
    have bottomFace : ((notifications.map NotificationNode.from).map
        NotificationNode.face).getLast? = some bottom.face := by
      rw [faces, List.getLast?_map, isBottom]
      rfl
    rw [List.getLast?_map] at bottomFace
    obtain ⟨node, isNode, same⟩ := Option.map_eq_some_iff.mp bottomFace
    rw [List.getLast?_append, isNode] at isLast
    obtain rfl : node = last := Option.some.inj isLast
    rw [← position_of_face same.symm]
    exact below

end

/-- The nodes a client has been given since it opened its stream, against the table: `remaining`
are the places that are still ahead. -/
structure Tracks (initial : List Row) (caller : Uuid) (since : Nat)
    (nodes : List NotificationNode) (remaining : DateTime ×ₗ Uuid → Prop) (store : Store) :
    Prop where
  /-- The log was so long when the stream was opened. -/
  within : since ≤ store.log.length
  /-- The nodes are in the order of the list. -/
  descending : nodes.Pairwise fun left right => right.position < left.position
  /-- A node shows a row of the caller, as it has stood since. -/
  seen : ∀ node ∈ nodes,
    (∃ first, .insert first ∈ store.history ∧ first.owned = (caller, node.id) ∧
      first.createdAt = node.createdAt) ∧
    store.StoodSince initial since node.id (.of node.readAt)
  /-- A row that was there before is given, or still ahead. -/
  complete : ∀ row ∈ store.rows, row.recipientId = caller →
    .added ∉ store.toldSince since row.id →
    row.id ∈ nodes.map NotificationNode.id ∨ remaining row.position

section

variable {store after : Store} {initial : List Row} {caller : Uuid} {since : Nat}
  {nodes : List NotificationNode} {remaining : DateTime ×ₗ Uuid → Prop}

/-- Before the first page, everything is ahead. -/
theorem tracks_opened (within : since ≤ store.log.length) :
    Tracks initial caller since [] (Below []) store where
  within := within
  descending := List.Pairwise.nil
  seen := by simp
  complete _ _ _ _ := Or.inr (by simp [Below])

/-- What is tracked with some places ahead is tracked with more of them. -/
theorem Tracks.mono {more : DateTime ×ₗ Uuid → Prop}
    (tracks : Tracks initial caller since nodes remaining store)
    (ahead : ∀ position, remaining position → more position) :
    Tracks initial caller since nodes more store := by
  refine ⟨tracks.within, tracks.descending, tracks.seen, ?_⟩
  intro row member own unadded
  exact (tracks.complete row member own unadded).imp_right (ahead row.position)

/-- The nodes a client has been given are those of a walk. -/
theorem Tracks.given (tracks : Tracks initial caller since nodes remaining store) :
    Given caller nodes store :=
  ⟨tracks.descending, fun node member => (tracks.seen node member).1⟩

/-- A notification that was never the caller's is not given. -/
theorem Tracks.unknown (tracks : Tracks initial caller since nodes remaining store) {id : Uuid}
    (stranger : ¬ store.Owned caller id) : known nodes id = none := by
  apply known_eq_none.mpr
  intro given
  obtain ⟨node, member, same⟩ := List.mem_map.mp given
  obtain ⟨⟨first, inserted, owned, -⟩, -⟩ := tracks.seen node member
  rw [same] at owned
  exact stranger ⟨first, inserted, owned⟩

/-- What is given and what is ahead, while the table changes. -/
theorem Tracks.step {action : Store.Action}
    (tracks : Tracks initial caller since nodes remaining store)
    (sound : Store.Sound initial store) (single : store.Single)
    (stepped : store.step action = some after) :
    Tracks initial caller since nodes remaining after := by
  have history := (Store.history_grows stepped).subset
  have within := tracks.within
  refine ⟨?_, tracks.descending, ?_, ?_⟩
  · exact (Store.take_log_step sound within stepped).1
  · intro node member
    obtain ⟨⟨first, inserted, shows⟩, stood⟩ := tracks.seen node member
    exact ⟨⟨first, history inserted, shows⟩, stood.step sound within stepped⟩
  · intro row member own unadded
    have sound' := Store.sound_step sound stepped
    obtain ⟨kinds, told, moved⟩ := Store.toldSince_step sound within stepped row.id
    rw [told, List.mem_append, not_or] at unadded
    have now := sound'.status_of_row member
    -- The row was there before the step: a step that makes it there adds it.
    have there : (store.status row.id).known ≠ none := by
      intro unknown
      cases status : store.status row.id with
      | unread => simp [status, Status.known] at unknown
      | read => simp [status, Status.known] at unknown
      | gone =>
        rw [status, now] at moved
        have ends := (follow_gone moved).2
        unfold Status.of at ends
        split at ends <;> contradiction
      | absent =>
        rw [status, now] at moved
        rcases follow_absent moved with ⟨-, same⟩ | ⟨rest, added, -⟩
        · unfold Status.of at same
          split at same <;> contradiction
        · rw [added] at unadded
          exact unadded.2 List.mem_cons_self
    obtain ⟨before, was, same⟩ := Store.row_of_known there
    obtain ⟨first, inserted, born⟩ := sound.consistent.born before was
    have sameId : first.id = row.id := by
      rw [← same, born]
    have later := sound'.row_of_insert (Store.single_step sound single stepped) member
      (history inserted) sameId
    have position : before.position = row.position := by
      rw [born, later]
      rfl
    have owner : before.recipientId = caller := by
      rw [← own, born, later]
    rw [← same, ← position]
    exact tracks.complete before was owner (same ▸ unadded.1)

/-- A page gives what is next, and what is ahead of it lies below its last node. -/
theorem Tracks.page {first : Int32} {more : List NotificationNode} {hasNextPage : Bool}
    (tracks : Tracks initial caller since nodes (Below nodes) store)
    (sound : Store.Sound initial store) (single : store.Single)
    (recounted : store.Recounted initial)
    (answered : atomicRequest caller first (cursorOf nodes) store.rows =
      some (.ok (.commit (.ok (.connection more hasNextPage))))) :
    Tracks initial caller since (nodes ++ more)
      (fun position => hasNextPage = true ∧ Below (nodes ++ more) position) store := by
  have paged := tracks.given.page sound single answered
  refine ⟨tracks.within, paged.descending, ?_, ?_⟩
  · intro node member
    refine ⟨paged.shown node member, ?_⟩
    rcases List.mem_append.mp member with old | new
    · exact (tracks.seen node old).2
    · obtain ⟨row, there, -, same, -⟩ := mem_page answered new
      have sameId : row.id = node.id := congrArg Prod.fst same
      have readAt : row.readAt = node.readAt := congrArg (fun face => face.2.2) same
      rw [← sameId, ← readAt, ← sound.status_of_row there]
      exact recounted.stands_since since row.id
  · intro row member own unadded
    rw [List.map_append, List.mem_append]
    rcases tracks.complete row member own unadded with old | ahead
    · exact Or.inl (Or.inl old)
    · rcases tracks.given.covers sound single answered member own ahead with
        ⟨node, new, same⟩ | below
      · exact Or.inl (Or.inr (List.mem_map.mpr ⟨node, new, (congrArg Prod.fst same).symm⟩))
      · exact Or.inr below

end

end SvcNotifier
