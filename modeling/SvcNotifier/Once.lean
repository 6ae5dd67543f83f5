import SvcNotifier.LivePath
import SvcNotifier.Walk

/-!
# An `Added` once

A notification is announced once, and a stream serves what is dispatched for it in order, so no
stream serves the `Added` of a notification twice, and one whose row was gone at the re-read is
gone for good.
-/

namespace SvcNotifier

open Library

/-- The signal announces that a notification was added. -/
def NotificationSignal.adds (id : Uuid) : NotificationSignal → Bool
  | .added _ named => named == id
  | _ => false

/-- The event shows a notification as added. -/
def ClientEvent.adds (id : Uuid) : ClientEvent → Bool
  | .added notification => notification.id == id
  | _ => false

/-- The client was served the notification as added. -/
def isAddedOf (id : Uuid) : Except EdgeError NotifierNotificationEvent → Bool
  | .ok (.notificationAdded node) => node.id == id
  | _ => false

/-- What the client is served of an event. -/
theorem isAddedOf_intoUnion (id : Uuid) (event : ClientEvent) :
    isAddedOf id (.ok (intoUnion event)) = event.adds id := by
  cases event <;> rfl

/-! ## Announced once -/

/-- In the life of a row from any status it is added at most once. -/
theorem added_once {kinds : List FactKind} {first last : Status}
    (followed : notificationLifecycle.follow first kinds = some last) :
    kinds.countP (· == .added) ≤ 1 := by
  by_cases added : .added ∈ kinds
  · rw [absent_of_added followed added] at followed
    rcases follow_absent followed with ⟨rfl, -⟩ | ⟨rest, rfl, later⟩
    · contradiction
    · have none_ : .added ∉ rest := by
        intro again
        have impossible := absent_of_added later again
        contradiction
      have zero : rest.countP (· == .added) = 0 := by
        rw [List.countP_eq_zero]
        intro kind member same
        rw [beq_iff_eq] at same
        exact none_ (same ▸ member)
      rw [List.countP_cons, zero]
      simp
  · have zero : kinds.countP (· == .added) = 0 := by
      rw [List.countP_eq_zero]
      intro kind member same
      rw [beq_iff_eq] at same
      exact added (same ▸ member)
    omega

/-- The signals that announce a notification tell that it was added. -/
theorem countP_adds_le (signals : List NotificationSignal) (id : Uuid) :
    signals.countP (NotificationSignal.adds id) ≤
      (Store.toldBy signals id).countP (· == .added) := by
  induction signals with
  | nil => exact Nat.le_refl 0
  | cons signal signals ih =>
    have whole : Store.toldBy (signal :: signals) id =
        Store.toldBy [signal] id ++ Store.toldBy signals id :=
      Store.toldBy_append [signal] signals id
    rw [whole, List.countP_append, List.countP_cons]
    have one : (if signal.adds id = true then 1 else 0) ≤
        (Store.toldBy [signal] id).countP (· == .added) := by
      cases signal with
      | added recipientId added =>
        by_cases own : added = id
        · subst own
          simp [NotificationSignal.adds, Store.toldBy, NotificationSignal.facts, about]
        · simp [NotificationSignal.adds, own]
      | read recipientId ids readAt => simp [NotificationSignal.adds]
      | deleted recipientId ids => simp [NotificationSignal.adds]
    omega

/-- A notification is announced once. -/
theorem Store.Recounted.announced_once {initial : List Row} {store : Store}
    (recounted : store.Recounted initial) (id : Uuid) :
    store.log.countP (NotificationSignal.adds id) ≤ 1 :=
  (countP_adds_le store.log id).trans (added_once (recounted id))

/-! ## Dispatched once -/

/-- What dispatched signals come to shows no notification more often than they announce it. -/
theorem countP_reckoned {entries : List Dispatched}
    (accounted : ∀ entry ∈ entries, entry.Accounted) (id : Uuid) :
    (reckoned entries).countP (ClientEvent.adds id) ≤
      (entries.map Dispatched.signal).countP (NotificationSignal.adds id) := by
  induction entries with
  | nil => exact Nat.le_refl 0
  | cons entry entries ih =>
    rw [List.forall_mem_cons] at accounted
    have rest := ih accounted.2
    obtain ⟨signal, fate, rows⟩ := entry
    rw [List.map_cons, List.countP_cons]
    cases fate with
    | sent event =>
      have tells : signal.Tells event := accounted.1
      have one : (if event.adds id = true then 1 else 0) ≤
          if signal.adds id = true then 1 else 0 := by
        cases event with
        | added notification =>
          cases signal with
          | added recipientId added =>
            have same : notification.id = added := tells
            simp [ClientEvent.adds, NotificationSignal.adds, same]
          | _ => contradiction
        | read ids readAt => simp [ClientEvent.adds]
        | deleted ids => simp [ClientEvent.adds]
      show (event :: reckoned entries).countP _ ≤ _ + if signal.adds id = true then 1 else 0
      rw [List.countP_cons]
      omega
    | gone =>
      show (reckoned entries).countP _ ≤ _
      omega
    | _ => exact Nat.zero_le _

/-! ## Gone for good -/

namespace Store

variable {store after : Store} {initial : List Row} {id : Uuid}

/-- A row that is gone stays so. -/
theorem gone_step {action : Action} (sound : Sound initial store) (gone : store.status id = .gone)
    (stepped : store.step action = some after) : after.status id = .gone := by
  obtain ⟨kinds, -, followed⟩ := told_step sound stepped id
  rw [gone] at followed
  exact (follow_gone followed).2

end Store

namespace Realtime

variable {hub after : Realtime} {initial : List Row}

/-- The rows that were gone at their re-reads are gone. -/
def Removals (hub : Realtime) : Prop :=
  ∀ entry ∈ hub.dispatched, entry.fate = .gone → ∀ recipientId id,
    entry.signal = .added recipientId id → hub.store.status id = .gone

/-- What a call decides keeps the rows gone. -/
theorem Removals.decided (removals : hub.Removals) (routed : hub.Routed initial)
    (single : hub.store.Single) {failure : Option SqlxError} {signal : NotificationSignal}
    {stand later : Stand} (committed : signal ∈ hub.store.log)
    (decides : hub.Decides failure signal stand later after) : after.Removals := by
  have other : ∀ fate : Fate, fate ≠ .gone →
      ∀ entry ∈ hub.dispatched ++ [⟨signal, fate, hub.store.rows⟩], entry.fate = .gone →
        ∀ recipientId id, entry.signal = .added recipientId id →
          hub.store.status id = .gone := by
    intro fate settled entry member gone
    rcases List.mem_append.mp member with old | new
    · exact removals entry old gone
    · rw [List.mem_singleton.mp new] at gone
      exact absurd gone settled
  cases decides with
  | active => exact removals
  | inactive unwatched => exact other _ (by simp)
  | found isAdded member owned content => exact removals
  | @gone id isAdded absent =>
    intro entry member isGone recipientId named same
    rcases List.mem_append.mp member with old | new
    · exact removals entry old isGone recipientId named same
    · rw [List.mem_singleton.mp new] at same
      obtain ⟨-, rfl⟩ := NotificationSignal.added.inj (isAdded.symm.trans same)
      have stated : Fact.mk .added signal.recipientId id ∈ signal.facts := by
        rw [isAdded]
        exact List.mem_singleton_self _
      have owned := routed.rooted.announced routed.sound committed stated
      exact routed.sound.status_of_absent single owned absent
  | failed isAdded at_ failing => exact other _ (by simp)
  | registered found => exact removals
  | unregistered unwatched => exact other _ (by simp)
  | @sent channel event found due =>
    obtain ⟨-, -, -, dispatched, store, -⟩ := push_keeps hub channel event
    show ∀ entry ∈ (hub.push channel event).dispatched ++
      [⟨signal, .sent event, (hub.push channel event).store.rows⟩], entry.fate = .gone →
        ∀ recipientId id, entry.signal = .added recipientId id →
          (hub.push channel event).store.status id = .gone
    rw [dispatched, store]
    exact other _ (by simp)

/-- Every step keeps the rows gone. -/
theorem removals_step {action : Action} (removals : hub.Removals) (routed : hub.Routed initial)
    (single : hub.store.Single) (stepped : hub.step action = some after) : after.Removals := by
  cases moves_of_step stepped with
  | database moved =>
    intro entry member gone recipientId id same
    exact Store.gone_step routed.sound (removals entry member gone recipientId id same) moved
  | @run failure signal request next at_ =>
    obtain ⟨stand, later, -, decides, -⟩ :=
      routed.dispatching.performed routed.sound routed.rooted routed.wired failure at_
    have decided : (hub.perform signal request (hub.answer failure request)).Removals :=
      removals.decided routed single (routed.dispatching _ _ at_).1 decides
    exact decided
  | _ => exact removals

end Realtime

namespace Boot

variable {state after : Boot} {stream : Stream} {initial : List Row}

/-- What is dispatched of a process's log is a part of it. -/
theorem Steady.dispatched (steady : state.Steady initial) :
    (state.hub.dispatched.map Dispatched.signal).Sublist state.hub.store.log := by
  cases listens : state.listens with
  | false =>
    rw [(steady.silent listens).1]
    exact List.nil_sublist _
  | true =>
    obtain ⟨base, listening⟩ := listening_of_listens listens
    exact (steady.follows base listening).order.sublist.trans (List.drop_sublist _ _)

/-- No stream serves the `Added` of a notification twice. -/
theorem Steady.served_once (steady : state.Steady initial)
    (recounted : state.hub.store.Recounted initial) {index : Nat}
    (there : state.hub.streams[index]? = some stream) (id : Uuid) :
    stream.items.countP (isAddedOf id) ≤ 1 := by
  have skips := steady.faithful.neverSkips there
  obtain ⟨events, verdict, items, some_, tail⟩ := skips.inOrder
  have silent : verdict.countP (isAddedOf id) = 0 := by
    rcases tail with none_ | ⟨-, error, isVerdict⟩
    · rw [none_]
      rfl
    · rw [isVerdict]
      rfl
  have dues : ((state.hub.due stream).map Dispatched.signal).Sublist state.hub.store.log := by
    refine List.Sublist.trans (List.Sublist.map _ ?_) steady.dispatched
    exact List.filter_sublist.trans (List.drop_sublist _ _)
  calc
    stream.items.countP (isAddedOf id) = events.countP (ClientEvent.adds id) := by
      rw [items, List.countP_append, silent, Nat.add_zero, List.countP_map]
      exact List.countP_congr fun event _ => by rw [Function.comp_apply, isAddedOf_intoUnion]
    _ ≤ (reckoned (state.hub.due stream)).countP (ClientEvent.adds id) :=
      some_.sublist.countP_le
    _ ≤ ((state.hub.due stream).map Dispatched.signal).countP (NotificationSignal.adds id) :=
      countP_reckoned skips.accounted id
    _ ≤ state.hub.store.log.countP (NotificationSignal.adds id) := dues.countP_le
    _ ≤ 1 := recounted.announced_once id

/-- What is known of a process, of what it announces and of what it finds gone. -/
structure Exact (initial : List Row) (state : Boot) : Prop where
  /-- No fact is lost of what is dispatched. -/
  steady : state.Steady initial
  /-- Every id is inserted once. -/
  single : state.hub.store.Single
  /-- The log recounts the committed writes. -/
  recounted : state.hub.store.Recounted initial
  /-- What is found gone has been removed. -/
  removals : state.hub.Removals

/-- When the process starts. -/
theorem start_exact (natsUrl : Bool) (table : Notifications) :
    (start natsUrl table.rows).Exact table.rows where
  steady := start_steady natsUrl table
  single := Store.start_single table
  recounted := Store.start_recounted table.rows
  removals entry member := by contradiction

/-- Every step in which no re-read fails keeps it. -/
theorem exact_step {action : Action} (exact_ : state.Exact initial) (heard : state.Heard action)
    (stepped : state.step action = some after) : after.Exact initial := by
  have steady := steady_step exact_.steady heard stepped
  have routed := exact_.steady.faithful.routed
  cases moves_of_step stepped with
  | hub admitted moved =>
    refine ⟨steady, ?_, ?_, Realtime.removals_step exact_.removals routed exact_.single moved⟩
    · rcases Realtime.store_step moved with same | ⟨action, written⟩
      · exact same ▸ exact_.single
      · exact Store.single_step routed.sound exact_.single written
    · rcases Realtime.store_step moved with same | ⟨action, written⟩
      · exact same ▸ exact_.recounted
      · exact Store.recounted_step routed.sound exact_.recounted written
  | _ => exact ⟨steady, exact_.single, exact_.recounted, exact_.removals⟩

end Boot

end SvcNotifier
