import SvcNotifier.Recount

/-!
# The reconnect protocol

A client opens its stream first, then walks its list page by page to the end, and folds the
events of the stream into what the pages gave, by notification id. Everything else goes on
meanwhile: the hub takes any of its steps between any two of the client's.
-/

namespace SvcNotifier

open Library Program

/-- Fold an event into a snapshot: an `Added` inserts a notification that is not known, a `Read`
marks known ones, a `Deleted` removes. -/
def foldEvent (nodes : List NotificationNode) : NotifierNotificationEvent → List NotificationNode
  | .notificationAdded notification =>
    if nodes.any fun node => node.id == notification.id then nodes else nodes ++ [notification]
  | .notificationsRead ids readAt =>
    nodes.map fun node => if node.id ∈ ids then { node with readAt := some readAt } else node
  | .notificationsDeleted ids => nodes.filter fun node => node.id ∉ ids

/-- Fold the events a stream has served into a snapshot. -/
def folded (nodes : List NotificationNode) (events : List NotifierNotificationEvent) :
    List NotificationNode :=
  events.foldl foldEvent nodes

/-- What a snapshot says of an id: whether it is read, if it is known. -/
def known (nodes : List NotificationNode) (id : Uuid) : Option Bool :=
  (nodes.find? fun node => node.id == id).map fun node => node.readAt.isSome

/-- What the table says of an id among a recipient's rows. -/
def current (rows : List Row) (recipientId id : Uuid) : Option Bool :=
  (anchorRow rows recipientId id).map fun row => row.readAt.isSome

/-- How far a client has come. -/
inductive Phase where
  /-- It has not opened its stream. -/
  | away
  /-- It has opened the stream at an index, and walks its list. -/
  | walking (index : Nat) (nodes : List NotificationNode)
  /-- It has reached the end of its list. -/
  | arrived (index : Nat) (nodes : List NotificationNode)

/-- The hub, and a client of it. -/
structure Reconnect where
  /-- The realtime side, with the database. -/
  hub : Realtime
  /-- How far the client has come. -/
  phase : Phase

/-- The cursor of the page after the nodes a client has. -/
def cursorOf (nodes : List NotificationNode) : Option Uuid :=
  nodes.getLast?.map NotificationNode.id

namespace Reconnect

/-- A client that is away, and a listener that listens, over a database with a table. -/
def start (rows : List Row) : Reconnect := ⟨Realtime.start rows, .away⟩

/-- What happens next. -/
inductive Action where
  /-- The hub takes a step, which may be a read of the client's stream. -/
  | hub (action : Realtime.Action)
  /-- The client opens its stream. -/
  | opens
  /-- The client asks for its next page, of the size it likes, and is answered. -/
  | page (first : Int32)

/-- One step, for a client with a passport. A page request that is refused is none. -/
def step (ctx : Context) (state : Reconnect) : Action → Option Reconnect
  | .hub action => match state.hub.step action with
    | some hub => some ⟨hub, state.phase⟩
    | none => none
  | .opens => match state.phase, state.hub.notifierNotificationEvents ctx with
    | .away, .ok opened => some ⟨opened, .walking state.hub.streams.length []⟩
    | _, _ => none
  | .page first => match state.phase, recipient ctx with
    | .walking index nodes, .ok caller =>
      match atomicRequest caller first (cursorOf nodes) state.hub.store.rows with
      | some (.ok (.commit (.ok (.connection more hasNextPage)))) =>
        if hasNextPage then some ⟨state.hub, .walking index (nodes ++ more)⟩
        else some ⟨state.hub, .arrived index (nodes ++ more)⟩
      | _ => none
    | _, _ => none

/-- A step that loses no fact of anybody who listens. -/
def Heard (state : Reconnect) : Action → Prop
  | .hub action => state.hub.Heard action
  | .opens => True
  | .page _ => True

/-- Everything one step can do, with what it was found doing. -/
inductive Moves (ctx : Context) (state : Reconnect) : Action → Reconnect → Prop where
  /-- The hub takes a step. -/
  | hub {action : Realtime.Action} {hub : Realtime} (stepped : state.hub.step action = some hub) :
      Moves ctx state (.hub action) ⟨hub, state.phase⟩
  /-- The client opens its stream. -/
  | opens {caller : Uuid} (away : state.phase = .away) (resolved : recipient ctx = .ok caller) :
      Moves ctx state .opens
        ⟨state.hub.subscribe caller, .walking state.hub.streams.length []⟩
  /-- The client gets a page of the list. -/
  | page {first : Int32} {caller : Uuid} {index : Nat} {nodes more : List NotificationNode}
      {hasNextPage : Bool} (walking : state.phase = .walking index nodes)
      (resolved : recipient ctx = .ok caller)
      (answered : atomicRequest caller first (cursorOf nodes) state.hub.store.rows =
        some (.ok (.commit (.ok (.connection more hasNextPage))))) :
      Moves ctx state (.page first) ⟨state.hub,
        if hasNextPage then .walking index (nodes ++ more) else .arrived index (nodes ++ more)⟩

/-- A step does one of these things. -/
theorem moves_of_step {ctx : Context} {state after : Reconnect} {action : Action}
    (stepped : state.step ctx action = some after) : Moves ctx state action after := by
  cases action with
  | hub action =>
    simp only [step] at stepped
    split at stepped
    · rename_i hub moved
      obtain rfl := Option.some.inj stepped
      exact .hub moved
    · contradiction
  | opens =>
    simp only [step] at stepped
    split at stepped
    · rename_i opened away accepted
      obtain rfl := Option.some.inj stepped
      obtain ⟨caller, resolved, rfl⟩ := Realtime.opened_of_accepted accepted
      exact .opens away resolved
    · contradiction
  | page first =>
    simp only [step] at stepped
    split at stepped
    · rename_i index nodes caller walking resolved
      split at stepped
      · rename_i more hasNextPage answered
        have moves : Moves ctx state (.page first) ⟨state.hub,
            if hasNextPage then .walking index (nodes ++ more)
            else .arrived index (nodes ++ more)⟩ := .page walking resolved answered
        cases hasNextPage with
        | true =>
          obtain rfl := Option.some.inj stepped
          exact moves
        | false =>
          obtain rfl := Option.some.inj stepped
          exact moves
      · contradiction
    · contradiction

end Reconnect

/-! ## What an event changes of one id -/

/-- The first node that bears an id tells what is known of it. -/
theorem known_cons (node : NotificationNode) (nodes : List NotificationNode) (id : Uuid) :
    known (node :: nodes) id =
      if node.id = id then some node.readAt.isSome else known nodes id := by
  rw [known, List.find?_cons]
  by_cases own : node.id = id
  · rw [if_pos own, beq_iff_eq.mpr own]
    rfl
  · rw [if_neg own, beq_eq_false_iff_ne.mpr own]
    rfl

/-- The nodes of other ids do not matter. -/
theorem known_append (nodes more : List NotificationNode) (id : Uuid) :
    known (nodes ++ more) id = (known nodes id).or (known more id) := by
  rw [known, known, known, List.find?_append]
  cases nodes.find? fun node => node.id == id with
  | none => rfl
  | some node => rfl

/-- An id is known when a node bears it. -/
theorem known_eq_none {nodes : List NotificationNode} {id : Uuid} :
    known nodes id = none ↔ id ∉ nodes.map NotificationNode.id := by
  simp [known]

/-- What is known of an id is what a node that bears it tells. -/
theorem known_eq_some {nodes : List NotificationNode} {id : Uuid} {read : Bool}
    (held : known nodes id = some read) :
    ∃ node ∈ nodes, node.id = id ∧ node.readAt.isSome = read := by
  obtain ⟨node, found, same⟩ := Option.map_eq_some_iff.mp held
  exact ⟨node, List.mem_of_find?_eq_some found, by simpa using List.find?_some found, same⟩

/-- An `Added` inserts a notification that is not known. -/
theorem known_added (nodes : List NotificationNode) (notification : NotificationNode) (id : Uuid) :
    known (foldEvent nodes (.notificationAdded notification)) id =
      if notification.id = id then (known nodes id).or (some notification.readAt.isSome)
      else known nodes id := by
  rw [foldEvent]
  by_cases there : (nodes.any fun node => node.id == notification.id) = true
  · rw [if_pos there]
    by_cases own : notification.id = id
    · rw [if_pos own]
      cases held : known nodes id with
      | some read => rfl
      | none =>
        -- It is there, so it is known.
        rw [known_eq_none] at held
        obtain ⟨node, member, same⟩ := List.any_eq_true.mp there
        rw [← own, ← beq_iff_eq.mp same] at held
        exact absurd (List.mem_map_of_mem member) held
    · rw [if_neg own]
  · rw [if_neg there, known_append]
    by_cases own : notification.id = id
    · rw [if_pos own, known, known, List.find?_singleton, beq_iff_eq.mpr own]
      rfl
    · rw [if_neg own, known, known, List.find?_singleton, beq_eq_false_iff_ne.mpr own]
      exact Option.or_none

/-- A `Read` marks a known notification read. -/
theorem known_read (nodes : List NotificationNode) (ids : List Uuid) (readAt : DateTime)
    (id : Uuid) :
    known (foldEvent nodes (.notificationsRead ids readAt)) id =
      if id ∈ ids then (known nodes id).map fun _ => true else known nodes id := by
  rw [foldEvent]
  induction nodes with
  | nil => simp [known]
  | cons node nodes ih =>
    rw [List.map_cons, known_cons, known_cons, ih]
    have same : (if node.id ∈ ids then { node with readAt := some readAt } else node).id =
        node.id := by
      split <;> rfl
    rw [same]
    by_cases own : node.id = id
    · rw [if_pos own, if_pos own, own]
      by_cases named : id ∈ ids
      · rw [if_pos named, if_pos named]
        rfl
      · rw [if_neg named, if_neg named]
    · rw [if_neg own, if_neg own]

/-- A `Deleted` removes. -/
theorem known_deleted (nodes : List NotificationNode) (ids : List Uuid) (id : Uuid) :
    known (foldEvent nodes (.notificationsDeleted ids)) id =
      if id ∈ ids then none else known nodes id := by
  rw [foldEvent]
  induction nodes with
  | nil => simp [known]
  | cons node nodes ih =>
    rw [List.filter_cons, known_cons]
    by_cases removed : node.id ∈ ids
    · rw [if_neg (by simp [removed]), ih]
      by_cases named : id ∈ ids
      · rw [if_pos named, if_pos named]
      · have other : node.id ≠ id := fun same => named (same ▸ removed)
        rw [if_neg named, if_neg named, if_neg other]
    · rw [if_pos (by simp [removed]), known_cons, ih]
      by_cases own : node.id = id
      · have kept : id ∉ ids := own ▸ removed
        rw [if_pos own, if_neg kept, if_pos own]
      · rw [if_neg own, if_neg own]

end SvcNotifier
