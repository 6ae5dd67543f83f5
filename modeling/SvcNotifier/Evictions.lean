import SvcNotifier.Routing

/-!
# Whose channel stays registered

Closing a stream leaves the registry alone: a channel is evicted by the `active` check of a
signal of its own recipient, when it finds no stream open. A recipient is left behind from the
end of their last stream to the next such check, or until they open a stream again. In every run
the registered recipients are those with an open stream and those left behind.
-/

namespace SvcNotifier

open Library Program

namespace Realtime

variable {hub after : Realtime} {stream : Stream} {recipientId : Uuid} {initial : List Row}

/-- The streams that are open. -/
def openStreams (hub : Realtime) : List Stream := hub.streams.filter Stream.receiving

/-- `Watched`, as a check. -/
def watched (hub : Realtime) (recipientId : Uuid) : Bool :=
  hub.openStreams.any fun stream => stream.recipientId == recipientId

/-- The check says whether a stream of the recipient is open. -/
theorem watched_iff : hub.watched recipientId = true ↔ hub.Watched recipientId := by
  unfold watched openStreams Watched
  rw [List.any_eq_true]
  constructor
  · intro found
    obtain ⟨stream, member, same⟩ := found
    obtain ⟨there, receiving⟩ := List.mem_filter.mp member
    exact ⟨stream, there, receiving, beq_iff_eq.mp same⟩
  · intro found
    obtain ⟨stream, there, receiving, same⟩ := found
    exact ⟨stream, List.mem_filter.mpr ⟨there, receiving⟩, beq_iff_eq.mpr same⟩

/-! ## Who is left behind -/

/-- The step is the `active` check of a signal of the recipient. -/
def checks (hub : Realtime) (action : Action) (recipientId : Uuid) : Bool :=
  match action, hub.dispatching with
  | .run _, some (_, .call (.active caller) _) => caller == recipientId
  | _, _ => false

/-- The step opens a stream of the recipient. -/
def opens (action : Action) (recipientId : Uuid) : Bool :=
  match action with
  | .subscribe ctx => match recipient ctx with
    | .ok caller => caller == recipientId
    | .error _ => false
  | _ => false

/-- Whether the recipient is left behind after a step: their last stream ends with it, or had
ended before and nothing has been done about it. -/
def leaves (recipientId : Uuid) (hub : Realtime) (action : Action) (after : Realtime)
    (left : Bool) : Bool :=
  if hub.checks action recipientId || opens action recipientId then false
  else left || (hub.watched recipientId && !after.watched recipientId)

/-- Whether the recipient is left behind after a run, and was before it. -/
def leftBehind (recipientId : Uuid) : Realtime → List Action → Bool → Bool
  | _, [], left => left
  | hub, action :: actions, left => match hub.step action with
    | some after =>
      leftBehind recipientId after actions (leaves recipientId hub action after left)
    | none => left

/-- A recipient is registered when they have a stream open, or are left behind. -/
structure Accounts (hub : Realtime) (recipientId : Uuid) (left : Bool) : Prop where
  /-- There is no other reason to be registered. -/
  registered : hub.registry recipientId ≠ none ↔ hub.Watched recipientId ∨ left = true
  /-- Whoever is left behind has no stream open. -/
  gone : left = true → ¬ hub.Watched recipientId

/-! ## What a step does to a registration -/

/-- A call that is not a check on the recipient leaves their registration alone. -/
theorem perform_registry (hub : Realtime) (signal : NotificationSignal) (request : HubCall)
    (reply : request.Reply) (other : ∀ caller, request = .active caller → recipientId ≠ caller) :
    (hub.perform signal request reply).registry recipientId = hub.registry recipientId := by
  unfold perform
  split
  case h_1 caller => exact Function.update_of_ne (other caller rfl) ..
  case h_8 channel event reply => exact congrFun (push_keeps hub channel event).1 recipientId
  all_goals rfl

/-- A step that neither checks on a recipient nor opens a stream of theirs. -/
theorem registry_kept {action : Action} (stepped : hub.step action = some after)
    (unchecked : hub.checks action recipientId = false)
    (unopened : opens action recipientId = false) :
    after.registry recipientId = hub.registry recipientId := by
  cases moves_of_step stepped with
  | @run failure signal request next at_ =>
    refine perform_registry hub signal request _ ?_
    rintro caller rfl rfl
    simp [checks, at_] at unchecked
  | @opens ctx caller accepted =>
    have other : recipientId ≠ caller := by
      rintro rfl
      simp [opens, accepted] at unopened
    exact Function.update_of_ne other ..
  | _ => rfl

/-- Nobody comes to be watched but by opening a stream. -/
theorem watched_of_step {action : Action} (stepped : hub.step action = some after)
    (unopened : opens action recipientId = false) (watched : after.Watched recipientId) :
    hub.Watched recipientId := by
  obtain ⟨stream, member, receiving, same⟩ := watched
  cases moves_of_step stepped with
  | @run failure signal request next at_ =>
    have there : stream ∈
        (hub.perform signal request (hub.answer failure request)).streams := member
    rw [perform_streams] at there
    exact ⟨stream, there, receiving, same⟩
  | @opens ctx caller accepted =>
    rcases List.mem_append.mp member with old | new
    · exact ⟨stream, old, receiving, same⟩
    · obtain rfl := List.mem_singleton.mp new
      obtain rfl : caller = recipientId := same
      simp [opens, accepted] at unopened
  | @poll index current polled there open_ given =>
    rcases List.mem_or_eq_of_mem_set member with old | rfl
    · exact ⟨stream, old, receiving, same⟩
    · have own := (pollStream_continues given).recipientId
      exact ⟨current, List.mem_of_getElem? there, open_, own.symm.trans same⟩
  | @close index current there open_ =>
    rcases List.mem_or_eq_of_mem_set member with old | rfl
    · exact ⟨stream, old, receiving, same⟩
    · contradiction
  | _ => exact ⟨stream, member, receiving, same⟩

/-- A check leaves the recipient registered exactly when somebody watches. -/
theorem registry_checked {action : Action} (wired : hub.Wired)
    (stepped : hub.step action = some after) (checked : hub.checks action recipientId = true) :
    after.registry recipientId ≠ none ↔ after.Watched recipientId := by
  cases moves_of_step stepped with
  | @run failure signal request next at_ =>
    cases request with
    | active caller =>
      obtain rfl : caller = recipientId := by simpa [checks, at_] using checked
      have active : hub.isActive caller = true ↔ hub.Watched caller := wired.active
      show (hub.perform signal (.active caller) (hub.isActive caller)).registry caller ≠ none ↔
        ∃ stream ∈ (hub.perform signal (.active caller) (hub.isActive caller)).streams, _
      rw [perform_streams]
      cases answer : hub.isActive caller with
      | true =>
        obtain ⟨stream, member, receiving, same⟩ := active.mp answer
        have registered := wired.registered stream member receiving
        rw [same] at registered
        refine iff_of_true ?_ ⟨stream, member, receiving, same⟩
        show hub.registry caller ≠ none
        rw [registered]
        exact Option.some_ne_none _
      | false =>
        have unwatched : ¬ hub.Watched caller := by
          rw [← active, answer]
          exact Bool.false_ne_true
        refine iff_of_false ?_ unwatched
        show ¬ Function.update hub.registry caller none caller ≠ none
        rw [Function.update_self]
        exact fun differs => differs rfl
    | _ => simp [checks, at_] at checked
  | _ => simp [checks] at checked

/-- Opening a stream registers the recipient, who then has one. -/
theorem registry_opened {action : Action} (stepped : hub.step action = some after)
    (opened : opens action recipientId = true) :
    after.registry recipientId ≠ none ∧ after.Watched recipientId := by
  cases moves_of_step stepped with
  | @opens ctx caller accepted =>
    obtain rfl : caller = recipientId := by simpa [opens, accepted] using opened
    refine ⟨?_, hub.opening caller (hub.entry caller), ?_, rfl, rfl⟩
    · show Function.update hub.registry caller _ caller ≠ none
      rw [Function.update_self]
      exact Option.some_ne_none _
    · exact List.mem_append_right _ List.mem_cons_self
  | @refuses ctx error refused => simp [opens, refused] at opened
  | _ => contradiction

/-- Every step accounts for the registration of every recipient. -/
theorem accounts_step {action : Action} {left : Bool} (wired : hub.Wired)
    (accounts : hub.Accounts recipientId left) (stepped : hub.step action = some after) :
    after.Accounts recipientId (leaves recipientId hub action after left) := by
  unfold leaves
  by_cases checked : hub.checks action recipientId = true
  · have exact_ := registry_checked wired stepped checked
    rw [checked, Bool.true_or, if_pos rfl]
    exact ⟨exact_.trans (or_iff_left Bool.false_ne_true).symm, fun left => by contradiction⟩
  · by_cases opened : opens action recipientId = true
    · obtain ⟨registered, watched⟩ := registry_opened stepped opened
      rw [opened, Bool.or_true, if_pos rfl]
      exact ⟨iff_of_true registered (Or.inl watched), fun left => by contradiction⟩
    · have unchecked := Bool.eq_false_iff.mpr checked
      have unopened := Bool.eq_false_iff.mpr opened
      have was := watched_of_step stepped unopened
      have registered := accounts.registered
      have gone := accounts.gone
      have left' : (left || (hub.watched recipientId && !after.watched recipientId)) = true ↔
          left = true ∨ hub.Watched recipientId ∧ ¬ after.Watched recipientId := by
        rw [Bool.or_eq_true, Bool.and_eq_true, Bool.not_eq_true', ← Bool.not_eq_true, watched_iff,
          watched_iff]
      rw [unchecked, unopened, if_neg (by simp)]
      refine ⟨?_, ?_⟩
      · rw [registry_kept stepped unchecked unopened, registered, left']
        constructor
        · intro either
          rcases either with watched | gone_
          · by_cases still : after.Watched recipientId
            · exact Or.inl still
            · exact Or.inr (Or.inr ⟨watched, still⟩)
          · exact Or.inr (Or.inl gone_)
        · intro either
          rcases either with still | gone_ | left_
          · exact Or.inl (was still)
          · exact Or.inr gone_
          · exact Or.inl left_.1
      · rw [left']
        intro either still
        rcases either with gone_ | left_
        · exact gone gone_ (was still)
        · exact left_.2 still

/-- At the start nobody is registered. -/
theorem start_accounts (rows : List Row) (recipientId : Uuid) :
    (start rows).Accounts recipientId false := by
  refine ⟨iff_of_false (fun registered => registered rfl) ?_, fun left => by contradiction⟩
  intro either
  rcases either with watched | left
  · obtain ⟨stream, member, -⟩ := watched
    cases member
  · contradiction

/-- Every run accounts for the registration of every recipient. -/
theorem accounts_of_steps {actions : List Action} {later : Realtime} {left : Bool}
    (routed : hub.Routed initial) (accounts : hub.Accounts recipientId left)
    (run : Steps step anyStep hub actions later) :
    later.Accounts recipientId (leftBehind recipientId hub actions left) := by
  induction run generalizing left with
  | refl hub => exact accounts
  | next _ stepped _ ih =>
    rw [leftBehind, stepped]
    exact ih (routed_step routed stepped) (accounts_step routed.wired accounts stepped)

/-! ## What the registry tracks -/

/-- The registered recipients are those with an open stream; so, of any number of recipients, no
more are registered than there are open streams. -/
structure TracksLiveSessions (hub : Realtime) : Prop where
  /-- A recipient is registered exactly while they have a stream open. -/
  exact : ∀ recipientId, hub.registry recipientId ≠ none ↔ hub.Watched recipientId
  /-- There are no more registered recipients than open streams. -/
  bounded : ∀ recipients : List Uuid, recipients.Nodup →
    (∀ recipientId ∈ recipients, hub.registry recipientId ≠ none) →
      recipients.length ≤ hub.openStreams.length

/-- Where the registered recipients are those with an open stream, there are no more of them than
open streams. -/
theorem tracksLiveSessions_of_exact
    (exact_ : ∀ recipientId, hub.registry recipientId ≠ none ↔ hub.Watched recipientId) :
    hub.TracksLiveSessions := by
  refine ⟨exact_, ?_⟩
  intro recipients distinct registered
  have among : recipients ⊆ hub.openStreams.map Stream.recipientId := by
    intro recipientId member
    obtain ⟨stream, there, receiving, same⟩ :=
      (exact_ recipientId).mp (registered recipientId member)
    exact List.mem_map.mpr ⟨stream, List.mem_filter.mpr ⟨there, receiving⟩, same⟩
  calc
    recipients.length ≤ (hub.openStreams.map Stream.recipientId).length :=
      (List.subperm_of_subset distinct among).length_le
    _ = hub.openStreams.length := List.length_map ..

end Realtime

/-- Exactly when the registry tracks live sessions, in any run of subscriptions, closed and ended
streams and dispatched signals over any number of recipients: when nobody is left behind by it,
that is, when since the end of their last stream every recipient has had the `active` check of a
signal of their own, or has opened a stream again. -/
theorem registry_tracks_live_sessions_iff (table : Notifications) (actions : List Realtime.Action)
    (hub : Realtime)
    (run : Steps Realtime.step anyStep (Realtime.start table.rows) actions hub) :
    hub.TracksLiveSessions ↔
      ∀ recipientId, Realtime.leftBehind recipientId (Realtime.start table.rows) actions false =
        false := by
  have routed := Realtime.start_routed table
  have accounts : ∀ recipientId, hub.Accounts recipientId
      (Realtime.leftBehind recipientId (Realtime.start table.rows) actions false) := by
    intro recipientId
    exact Realtime.accounts_of_steps routed (Realtime.start_accounts table.rows recipientId) run
  constructor
  · intro tracks recipientId
    have account := accounts recipientId
    by_contra some_
    have left := Bool.eq_true_of_not_eq_false some_
    have registered := account.registered.mpr (Or.inr left)
    exact account.gone left ((tracks.exact recipientId).mp registered)
  · intro nobody
    refine Realtime.tracksLiveSessions_of_exact fun recipientId => ?_
    have account := (accounts recipientId).registered
    rw [nobody recipientId] at account
    exact account.trans (or_iff_left Bool.false_ne_true)

/-- Somebody to whom nothing is ever announced. -/
def sampleVisitor : Context := ⟨some (.human (sampleId 7) none)⟩

/-- A recipient opens a stream and closes it; then a fan-out to others is committed, and the first
of its signals is dispatched up to its return. -/
def sampleDeparture : List Realtime.Action :=
  [.subscribe sampleVisitor, .close 0] ++
    (sampleFanOut ++ [Store.Action.commit 0]).map .database ++ [.receive, .run none]

/-- The hub once the dispatch has returned. -/
def sampleDeparted : Realtime :=
  (play Realtime.step (Realtime.start []) (sampleDeparture ++ [.finish])).get (by decide)

/-- The recipient who has left is still registered. -/
theorem registry_tracks_live_sessions_iff_sample : ¬ sampleDeparted.TracksLiveSessions := by
  have run : Steps Realtime.step anyStep (Realtime.start Notifications.empty.rows)
      (sampleDeparture ++ [.finish]) sampleDeparted := steps_of_play (Option.some_get _).symm
  rw [registry_tracks_live_sessions_iff .empty _ _ run]
  intro nobody
  have left : Realtime.leftBehind (sampleId 7) (Realtime.start []) (sampleDeparture ++ [.finish])
      false = true := by decide
  exact Bool.false_ne_true ((nobody (sampleId 7)).symm.trans left)

/-- The dispatch of somebody else's signal leaves the channel of a recipient whose last stream is
closed: one channel is registered and no stream is open. -/
theorem idle_channel_stays_registered :
    ¬ ∀ (table : Notifications) (actions : List Realtime.Action) (hub : Realtime),
      Steps Realtime.step anyStep (Realtime.start table.rows) (actions ++ [.finish]) hub →
        hub.TracksLiveSessions := by
  intro claimed
  have run : Steps Realtime.step anyStep (Realtime.start Notifications.empty.rows)
      (sampleDeparture ++ [.finish]) sampleDeparted := steps_of_play (Option.some_get _).symm
  have registered : sampleDeparted.registry (sampleId 7) = some 0 := by decide
  have nobody : sampleDeparted.openStreams.length = 0 := by decide
  have bound := (claimed .empty sampleDeparture sampleDeparted run).bounded [sampleId 7]
    (List.nodup_singleton _) (by simp [registered])
  rw [nobody] at bound
  contradiction

end SvcNotifier
