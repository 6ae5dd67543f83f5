import SvcNotifier.Boot

/-!
# The gap at boot

What is committed for a recipient after their stream was opened is dispatched for that stream,
or will be, where it is committed to a listener that listens. A commit that comes between the
opening of a stream and the listener's `LISTEN` reaches no one: nothing replays it.
-/

namespace SvcNotifier

open Library Program

namespace Boot

variable {state after : Boot} {stream : Stream} {initial : List Row} {mark : Nat}

/-- What had been committed when the listener began to listen, or has been until now. -/
def unheard (state : Boot) : List NotificationSignal :=
  match state.loop with
  | .listening base => state.hub.store.log.take base
  | _ => state.hub.store.log

/-- What the listener is still to dispatch. -/
def ahead (state : Boot) : List NotificationSignal :=
  match state.loop with
  | .listening base => state.hub.store.log.drop (base + state.hub.dispatched.length)
  | _ => []

/-- The signals of a stream's recipient. -/
def ofRecipient (stream : Stream) (signals : List NotificationSignal) : List NotificationSignal :=
  signals.filter fun signal => signal.recipientId == stream.recipientId

/-- Everything committed for a stream's recipient since a place in the log has been dispatched
since the stream was opened, or is still to be dispatched. -/
def Kept (state : Boot) (stream : Stream) (mark : Nat) : Prop :=
  ofRecipient stream (state.hub.store.log.drop mark) <:+
    (state.hub.due stream).map Dispatched.signal ++ ofRecipient stream state.ahead

/-! ## The listener from the boot on -/

/-- What is known of every process: no fact is lost of what is dispatched, and the listener
dispatches the log in its order from its `LISTEN` on, and nothing before. -/
structure Steady (initial : List Row) (state : Boot) : Prop where
  /-- No fact is lost of what is dispatched. -/
  faithful : state.hub.Faithful initial
  /-- Nothing is dispatched before the `LISTEN`. -/
  silent : state.listens = false → state.hub.dispatched = [] ∧ state.hub.dispatching = none
  /-- From there on the log is dispatched in its order. -/
  follows : ∀ base, state.loop = .listening base → state.hub.Follows base

/-- When the process starts. -/
theorem start_steady (natsUrl : Bool) (table : Notifications) :
    (start natsUrl table.rows).Steady table.rows := by
  refine ⟨Realtime.start_faithful table, fun _ => ⟨rfl, rfl⟩, ?_⟩
  intro base listening
  contradiction

/-- A listener that listens does so from some place on. -/
theorem listening_of_listens (listens : state.listens = true) :
    ∃ base, state.loop = .listening base := by
  unfold Boot.listens at listens
  split at listens
  case h_1 base at_ => exact ⟨base, at_⟩
  case h_2 => contradiction

/-- A listener that listens from some place on listens. -/
theorem listens_of_listening {base : Nat} (listening : state.loop = .listening base) :
    state.listens = true := by
  unfold Boot.listens
  rw [listening]

/-- The realtime side of a process never listens a second time. -/
theorem admits_listens {action : Realtime.Action} (admitted : state.admits action = true) :
    action ≠ .relisten := by
  intro same
  rw [same] at admitted
  contradiction

/-- Before the listener listens nothing is dispatched. -/
theorem silent_step {action : Realtime.Action} {hub : Realtime}
    (silent : state.hub.dispatched = [] ∧ state.hub.dispatching = none)
    (deaf : state.listens = false) (admitted : state.admits action = true)
    (stepped : state.hub.step action = some hub) :
    hub.dispatched = [] ∧ hub.dispatching = none := by
  have turns : ∀ other, action = other → state.admits other = state.listens → False := by
    intro other same turn
    rw [same, turn, deaf] at admitted
    contradiction
  cases Realtime.moves_of_step stepped with
  | database moved => exact silent
  | relisten idle => contradiction
  | receive idle notified => exact (turns _ rfl rfl).elim
  | run at_ => exact (turns _ rfl rfl).elim
  | finish at_ => exact (turns _ rfl rfl).elim
  | opens accepted => exact silent
  | refuses refused => exact silent
  | poll there receiving given => exact silent
  | close there receiving => exact silent

/-- Every step in which no re-read fails keeps the process steady. -/
theorem steady_step {action : Action} (steady : state.Steady initial) (heard : state.Heard action)
    (stepped : state.step action = some after) : after.Steady initial := by
  cases moves_of_step stepped with
  | main moved => exact ⟨steady.faithful, steady.silent, steady.follows⟩
  | connect at_ =>
    refine ⟨steady.faithful, ?_, ?_⟩
    · intro _
      apply steady.silent
      unfold Boot.listens
      rw [at_]
    · intro base listening
      contradiction
  | listen at_ =>
    have deaf : state.listens = false := by
      unfold Boot.listens
      rw [at_]
    obtain ⟨fresh, idle⟩ := steady.silent deaf
    have moved : state.hub.step .relisten =
        some { state.hub with position := state.hub.store.log.length } := by
      simp only [Realtime.step, idle]
    have routed := Realtime.routed_step steady.faithful.routed moved
    refine ⟨steady.faithful.aside routed rfl rfl rfl, ?_, ?_⟩
    · intro listening
      contradiction
    · intro base listening
      obtain rfl := ListenLoop.listening.inj listening
      exact Realtime.follows_of_listen fresh idle
  | snapshot => exact steady
  | hub admitted moved =>
    refine ⟨Realtime.faithful_step steady.faithful heard moved, ?_, ?_⟩
    · intro deaf
      exact silent_step (steady.silent deaf) deaf admitted moved
    · intro base listening
      exact Realtime.follows_step (steady.follows base listening) steady.faithful.routed
        (admits_listens admitted) moved

/-! ## Where a stream was opened -/

/-- A stream was opened when the log was so long: the listener listened and had dispatched no
more than that, or it did not listen, and nothing has been committed for the recipient between
the opening and the `LISTEN`. -/
structure Tracked (mark : Nat) (state : Boot) (stream : Stream) : Prop where
  /-- The log has grown since. -/
  within : mark ≤ state.hub.store.log.length
  /-- The dispatches count from no later place, or nothing has been missed. -/
  placed : (∃ base, state.loop = .listening base ∧ base + stream.since ≤ mark) ∨
    (stream.since = 0 ∧ mark ≤ state.unheard.length ∧ (stream.receiving = true →
      ∀ signal ∈ state.unheard.drop mark, signal.recipientId ≠ stream.recipientId))

/-- Nothing of a list is a recipient's. -/
theorem ofRecipient_eq_nil {signals : List NotificationSignal}
    (others : ∀ signal ∈ signals, signal.recipientId ≠ stream.recipientId) :
    ofRecipient stream signals = [] := by
  unfold ofRecipient
  rw [List.filter_eq_nil_iff]
  intro signal member own
  exact others signal member (beq_iff_eq.mp own)

/-- What a stream is due and what is ahead is the log from where it was opened. -/
theorem due_ahead {base : Nat} (follows : state.hub.Follows base)
    (listening : state.loop = .listening base)
    (opened : stream.since ≤ state.hub.dispatched.length) :
    (state.hub.due stream).map Dispatched.signal ++ ofRecipient stream state.ahead =
      ofRecipient stream (state.hub.store.log.drop (base + stream.since)) := by
  have due : (state.hub.due stream).map Dispatched.signal =
      ofRecipient stream ((state.hub.dispatched.map Dispatched.signal).drop stream.since) := by
    rw [Realtime.due, ofRecipient, ← List.map_drop, List.filter_map]
    rfl
  have ahead : state.ahead =
      state.hub.store.log.drop (base + state.hub.dispatched.length) := by
    unfold Boot.ahead
    rw [listening]
  have short : stream.since ≤ (state.hub.dispatched.map Dispatched.signal).length := by
    rw [List.length_map]
    exact opened
  have whole : (state.hub.dispatched.map Dispatched.signal).drop stream.since ++
      state.hub.store.log.drop (base + state.hub.dispatched.length) =
        state.hub.store.log.drop (base + stream.since) := by
    rw [← List.drop_append_of_le_length short, ← follows.split, List.drop_drop]
  rw [due, ahead, ofRecipient, ofRecipient, ofRecipient, ← List.filter_append, whole]

/-- An open stream that was opened there is kept what is committed from there on. -/
theorem Tracked.kept (tracked : Tracked mark state stream) (steady : state.Steady initial)
    (member : stream ∈ state.hub.streams) (receiving : stream.receiving = true) :
    state.Kept stream mark := by
  have opened := (steady.faithful.live stream member receiving).opened
  unfold Kept
  rcases tracked.placed with ⟨base, listening, placed⟩ | ⟨early, placed, others⟩
  · rw [due_ahead (steady.follows base listening) listening opened]
    obtain ⟨more, rfl⟩ := Nat.exists_eq_add_of_le placed
    rw [← List.drop_drop]
    exact (List.drop_suffix more _).filter _
  · have nothing := ofRecipient_eq_nil (others receiving)
    by_cases listens : state.listens = true
    · obtain ⟨base, listening⟩ := listening_of_listens listens
      have taken : state.unheard = state.hub.store.log.take base := by
        unfold unheard
        rw [listening]
      rw [taken] at placed nothing
      have before : mark ≤ base := by
        rw [List.length_take] at placed
        exact Nat.le_trans placed (Nat.min_le_left _ _)
      have cut : state.hub.store.log.drop mark = (state.hub.store.log.take base).drop mark ++
          state.hub.store.log.drop base := by
        rw [← List.drop_append_of_le_length placed, List.take_append_drop]
      rw [due_ahead (steady.follows base listening) listening opened, early, cut,
        ofRecipient, List.filter_append]
      unfold ofRecipient at nothing ⊢
      rw [nothing]
      exact List.suffix_rfl
    · have whole : state.unheard = state.hub.store.log := by
        unfold unheard
        split
        case h_1 base listening => exact absurd (listens_of_listening listening) listens
        case h_2 => rfl
      rw [whole] at nothing
      rw [nothing]
      exact List.nil_suffix

/-- A stream that has just been opened. -/
theorem tracked_of_opens (steady : state.Steady initial) (recipientId : Uuid)
    {hub : Realtime} (same : hub.store = state.hub.store) :
    Tracked state.hub.store.log.length { state with hub := hub }
      (state.hub.opening recipientId (state.hub.entry recipientId)) := by
  refine ⟨by rw [same], ?_⟩
  by_cases listens : state.listens = true
  · obtain ⟨base, listening⟩ := listening_of_listens listens
    have follows := steady.follows base listening
    have order := follows.order.length_le
    rw [List.length_map, List.length_drop] at order
    have within := Nat.le_trans follows.begins follows.within
    left
    refine ⟨base, listening, ?_⟩
    show base + state.hub.dispatched.length ≤ state.hub.store.log.length
    omega
  · have deaf : state.listens = false := Bool.eq_false_iff.mpr listens
    have whole : ({ state with hub := hub } : Boot).unheard = state.hub.store.log := by
      unfold unheard
      split
      case h_1 base listening =>
        have listens_ : state.listens = true := listens_of_listening listening
        exact absurd listens_ listens
      case h_2 => exact congrArg Store.log same
    right
    refine ⟨congrArg List.length (steady.silent deaf).1, ?_, ?_⟩
    · rw [whole]
    · intro _ signal member
      rw [whole, List.drop_length] at member
      contradiction

/-- What a stream has served it has served, after any step; it goes on, or ends. -/
structure Onward (stream later : Stream) : Prop extends stream.Continues later where
  /-- A stream that has ended stays so. -/
  receiving : later.receiving = true → stream.receiving = true
  /-- What has been served stays. -/
  items : stream.items <+: later.items

/-- A stream that nothing happens to. -/
theorem Onward.refl (stream : Stream) : Onward stream stream :=
  ⟨.refl stream, id, List.prefix_rfl⟩

/-- Reading an open stream. -/
theorem onward_of_poll {hub : Realtime} {later : Stream} (receiving : stream.receiving = true)
    (given : hub.pollStream stream = some later) : Onward stream later := by
  refine ⟨Realtime.pollStream_continues given, fun _ => receiving, ?_⟩
  unfold Realtime.pollStream at given
  split at given
  · obtain rfl := Option.some.inj given
    exact List.prefix_append _ _
  · obtain rfl := Option.some.inj given
    exact List.prefix_append _ _
  · split at given
    · contradiction
    · obtain rfl := Option.some.inj given
      exact List.prefix_rfl

/-- Every stream goes on, after any step of the realtime side. -/
theorem onward_of_step {action : Realtime.Action} {hub later : Realtime} {index : Nat}
    (stepped : hub.step action = some later) (there : hub.streams[index]? = some stream) :
    ∃ now, later.streams[index]? = some now ∧ Onward stream now := by
  refine Realtime.related_of_step Onward.refl ?_ ?_ stepped there
  · exact fun _ _ receiving given => onward_of_poll receiving given
  · exact fun _ receiving => ⟨⟨rfl, rfl, rfl, rfl⟩, fun _ => receiving, List.prefix_rfl⟩

/-- While the listener does not listen, nothing is committed for anybody who watches. -/
theorem unnoticed_step {action : Realtime.Action} {hub : Realtime} (deaf : state.listens = false)
    (covered : state.Covered (.hub action)) (admitted : state.admits action = true)
    (stepped : state.hub.step action = some hub) :
    ∀ signal ∈ hub.store.log.drop state.hub.store.log.length,
      ¬ state.hub.Watched signal.recipientId := by
  intro signal member
  have turns : ∀ other, action = other → state.admits other = state.listens → False := by
    intro other same turn
    rw [same, turn, deaf] at admitted
    contradiction
  have nothing : hub.store = state.hub.store → ¬ state.hub.Watched signal.recipientId := by
    intro same
    rw [same, List.drop_length] at member
    contradiction
  cases Realtime.moves_of_step stepped with
  | @database action store written =>
    have listens : state.listens ≠ true := Bool.eq_false_iff.mp deaf
    exact covered.resolve_left listens store written signal member
  | relisten idle => contradiction
  | receive idle notified => exact (turns _ rfl rfl).elim
  | run at_ => exact (turns _ rfl rfl).elim
  | finish at_ => exact (turns _ rfl rfl).elim
  | _ => exact nothing rfl

/-- The log only grows. -/
theorem log_step {action : Action} (stepped : state.step action = some after) :
    state.hub.store.log <+: after.hub.store.log := by
  cases moves_of_step stepped with
  | hub admitted moved =>
    rcases Realtime.store_step moved with same | ⟨action, written⟩
    · rw [same]
    · exact Store.log_grows written
  | _ => exact List.prefix_rfl

/-- A listener that listens goes on from the same place. -/
theorem listening_step {action : Action} {base : Nat} (listening : state.loop = .listening base)
    (stepped : state.step action = some after) : after.loop = .listening base := by
  cases moves_of_step stepped with
  | connect at_ =>
    rw [at_] at listening
    contradiction
  | listen at_ =>
    rw [at_] at listening
    contradiction
  | _ => exact listening

/-- Every stream goes on, after any step of the process. -/
theorem stream_step {action : Action} {index : Nat} (stepped : state.step action = some after)
    (there : state.hub.streams[index]? = some stream) :
    ∃ now, after.hub.streams[index]? = some now ∧ Onward stream now := by
  cases moves_of_step stepped with
  | hub admitted moved => exact onward_of_step moved there
  | _ => exact ⟨stream, there, .refl stream⟩

/-- While the listener does not listen, everything committed goes unheard. -/
theorem unheard_of_deaf (deaf : state.listens = false) : state.unheard = state.hub.store.log := by
  unfold unheard
  split
  case h_1 base listening =>
    have listens := listens_of_listening listening
    rw [deaf] at listens
    contradiction
  case h_2 => rfl

/-- What a step adds to what goes unheard. -/
theorem unheard_step {action : Action} (steady : state.Steady initial)
    (stepped : state.step action = some after) :
    ∃ more, after.unheard = state.unheard ++ more ∧
      (state.Covered action → ∀ signal ∈ more, ¬ state.hub.Watched signal.recipientId) := by
  have unchanged : after.unheard = state.unheard → ∃ more, after.unheard = state.unheard ++ more ∧
      (state.Covered action → ∀ signal ∈ more, ¬ state.hub.Watched signal.recipientId) := by
    intro same
    refine ⟨[], by rw [same, List.append_nil], ?_⟩
    intro _ signal member
    contradiction
  by_cases listens : state.listens = true
  · obtain ⟨base, listening⟩ := listening_of_listens listens
    have follows := steady.follows base listening
    obtain ⟨more, grown⟩ := log_step stepped
    apply unchanged
    unfold unheard
    rw [listening, listening_step listening stepped, ← grown]
    exact List.take_append_of_le_length (Nat.le_trans follows.begins follows.within)
  · have deaf : state.listens = false := Bool.eq_false_iff.mpr listens
    have before := unheard_of_deaf deaf
    cases moves_of_step stepped with
    | main moved => exact unchanged rfl
    | connect at_ =>
      apply unchanged
      rw [before]
      rfl
    | listen at_ =>
      apply unchanged
      rw [before]
      exact List.take_length
    | snapshot => exact unchanged rfl
    | @hub action hub admitted moved =>
      have later : ({ state with hub := hub } : Boot).unheard = hub.store.log :=
        unheard_of_deaf deaf
      obtain ⟨more, grown⟩ := log_step stepped
      have grown : state.hub.store.log ++ more = hub.store.log := grown
      refine ⟨more, by rw [later, before, grown], ?_⟩
      intro covered signal member
      apply unnoticed_step deaf covered admitted moved signal
      rw [← grown, List.drop_left]
      exact member

/-- Where a stream was opened stays so, where what is committed is committed to a listener that
listens. -/
theorem tracked_step {action : Action} {index : Nat} (steady : state.Steady initial)
    (covered : state.Covered action) (stepped : state.step action = some after)
    (there : state.hub.streams[index]? = some stream) (tracked : Tracked mark state stream) :
    ∃ now, after.hub.streams[index]? = some now ∧ Onward stream now ∧ Tracked mark after now := by
  obtain ⟨now, still, onward⟩ := stream_step stepped there
  refine ⟨now, still, onward, Nat.le_trans tracked.within (log_step stepped).length_le, ?_⟩
  rw [onward.since, onward.recipientId]
  rcases tracked.placed with ⟨base, listening, placed⟩ | ⟨early, placed, others⟩
  · exact Or.inl ⟨base, listening_step listening stepped, placed⟩
  · obtain ⟨more, grown, unnoticed⟩ := unheard_step steady stepped
    right
    rw [grown, List.length_append, List.drop_append_of_le_length placed]
    refine ⟨early, Nat.le_add_right_of_le placed, ?_⟩
    intro receiving signal member own
    rcases List.mem_append.mp member with old | new
    · exact others (onward.receiving receiving) signal old own
    · apply unnoticed covered signal new
      exact ⟨stream, List.mem_of_getElem? there, onward.receiving receiving, own.symm⟩

/-! ## What goes unheard is lost -/

/-- A change to a stream's recipient has been committed since a place in the log and goes
unheard. -/
structure Missed (mark : Nat) (state : Boot) (stream : Stream) : Prop where
  /-- The stream was opened before anything was dispatched. -/
  early : stream.since = 0
  /-- The place is one of the signals that nobody hears. -/
  within : mark ≤ state.unheard.length
  /-- One of those after it is for the recipient. -/
  unheard : ∃ signal ∈ state.unheard.drop mark, signal.recipientId = stream.recipientId

/-- What goes unheard stays so. -/
theorem missed_step {action : Action} {index : Nat} (steady : state.Steady initial)
    (stepped : state.step action = some after)
    (there : state.hub.streams[index]? = some stream) (missed : Missed mark state stream) :
    ∃ now, after.hub.streams[index]? = some now ∧ Missed mark after now := by
  obtain ⟨now, still, onward⟩ := stream_step stepped there
  obtain ⟨more, grown, _⟩ := unheard_step steady stepped
  obtain ⟨signal, member, own⟩ := missed.unheard
  refine ⟨now, still, onward.since.trans missed.early, ?_, signal, ?_, ?_⟩
  · rw [grown, List.length_append]
    exact Nat.le_add_right_of_le missed.within
  · rw [grown, List.drop_append_of_le_length missed.within]
    exact List.mem_append_left _ member
  · rw [onward.recipientId]
    exact own

/-- What goes unheard is not dispatched for the stream. -/
theorem Missed.not_kept (missed : Missed mark state stream) (steady : state.Steady initial) :
    ¬ state.Kept stream mark := by
  intro kept
  have opened : stream.since ≤ state.hub.dispatched.length := by
    rw [missed.early]
    exact Nat.zero_le _
  obtain ⟨signal, member, own⟩ := missed.unheard
  have some_ : signal ∈ ofRecipient stream (state.unheard.drop mark) := by
    unfold ofRecipient
    rw [List.mem_filter]
    exact ⟨member, beq_iff_eq.mpr own⟩
  unfold Kept at kept
  by_cases listens : state.listens = true
  · obtain ⟨base, listening⟩ := listening_of_listens listens
    have follows := steady.follows base listening
    have taken : state.unheard = state.hub.store.log.take base := by
      unfold Boot.unheard
      rw [listening]
    have within := missed.within
    rw [taken] at some_ within
    have cut : state.hub.store.log.drop mark = (state.hub.store.log.take base).drop mark ++
        state.hub.store.log.drop base := by
      rw [← List.drop_append_of_le_length within, List.take_append_drop]
    have longer := kept.length_le
    rw [due_ahead follows listening opened, missed.early, cut] at longer
    unfold ofRecipient at longer some_
    rw [List.filter_append, List.length_append, Nat.add_zero] at longer
    have more := List.length_pos_of_mem some_
    omega
  · have deaf : state.listens = false := Bool.eq_false_iff.mpr listens
    have nothing : state.ahead = [] := by
      unfold ahead
      split
      case h_1 base listening => exact absurd (listens_of_listening listening) listens
      case h_2 => rfl
    have due : state.hub.due stream = [] := by
      rw [Realtime.due, (steady.silent deaf).1]
      simp
    rw [due, nothing] at kept
    have none_ : ofRecipient stream (state.hub.store.log.drop mark) = [] :=
      List.suffix_nil.mp kept
    rw [unheard_of_deaf deaf, none_] at some_
    contradiction

/-- A change to a recipient with an open stream that is committed before the listener listens
is never dispatched for the stream. -/
theorem lost_of_uncovered {action : Action} (steady : state.Steady initial)
    (stepped : state.step action = some after) (uncovered : ¬ state.Covered action) :
    ∃ (index : Nat) (stream : Stream), state.hub.streams[index]? = some stream ∧
      stream.receiving = true ∧
      ∀ later : Boot, Reaches step Heard after later → ∀ now : Stream,
        later.hub.streams[index]? = some now → ¬ later.Kept now state.hub.store.log.length := by
  cases moves_of_step stepped with
  | @hub action hub admitted moved =>
    cases action with
    | database action =>
      obtain ⟨silent, unlucky⟩ := not_or.mp uncovered
      have deaf : state.listens = false := Bool.eq_false_iff.mpr silent
      obtain ⟨store, written, signal, member, watched⟩ : ∃ store,
          state.hub.store.step action = some store ∧
            ∃ signal ∈ store.log.drop state.hub.store.log.length,
              state.hub.Watched signal.recipientId := by
        simpa only [not_forall, not_not, exists_prop] using unlucky
      obtain ⟨stream, inside, receiving, own⟩ := watched
      obtain ⟨index, there⟩ := List.mem_iff_getElem?.mp inside
      have same : hub = { state.hub with store := store } := by
        simp only [Realtime.step, written] at moved
        exact (Option.some.inj moved).symm
      have heard : state.Heard (.hub (.database action)) := by
        refine ⟨by simp, ?_⟩
        intro failure signal recipientId id next same
        contradiction
      have begins := steady_step steady heard stepped
      have missed : Missed state.hub.store.log.length { state with hub := hub } stream := by
        have whole : ({ state with hub := hub } : Boot).unheard = hub.store.log :=
          unheard_of_deaf deaf
        have grown : state.hub.store.log.length ≤ hub.store.log.length :=
          (log_step stepped).length_le
        have opened := (steady.faithful.live stream inside receiving).opened
        rw [(steady.silent deaf).1] at opened
        refine ⟨Nat.le_zero.mp opened, by rw [whole]; exact grown, signal, ?_, own.symm⟩
        rw [whole, same]
        exact member
      refine ⟨index, stream, there, receiving, ?_⟩
      intro later run now still
      have keeps : ∀ earlier action later, (Steady initial earlier ∧
          ∃ stream, earlier.hub.streams[index]? = some stream ∧
            Missed state.hub.store.log.length earlier stream) →
          Heard earlier action → step earlier action = some later →
          (Steady initial later ∧ ∃ stream, later.hub.streams[index]? = some stream ∧
            Missed state.hub.store.log.length later stream) := by
        intro earlier action later held heard moved
        obtain ⟨steady, stream, there, missed⟩ := held
        exact ⟨steady_step steady heard moved, missed_step steady moved there missed⟩
      have first : hub.streams[index]? = some stream := by
        rw [same]
        exact there
      obtain ⟨steady, stream, at_, missed⟩ := run.invariant keeps ⟨begins, stream, first, missed⟩
      rw [at_] at still
      obtain rfl := Option.some.inj still
      exact missed.not_kept steady
    | _ => exact absurd trivial uncovered
  | _ => exact absurd trivial uncovered

/-! ## Runs -/

/-- No re-read fails for somebody who has a stream open, and no change to them is committed
before the listener listens. -/
def Gapless (state : Boot) (action : Action) : Prop := state.Heard action ∧ state.Covered action

/-- A run without a failed re-read keeps the process steady. -/
theorem steady_of_reaches {natsUrl : Bool} {table : Notifications}
    (reached : Reaches step Heard (start natsUrl table.rows) state) :
    state.Steady table.rows :=
  reached.invariant (fun _ _ _ steady heard stepped => steady_step steady heard stepped)
    (start_steady natsUrl table)

/-- A stream is tracked from its opening on. -/
theorem tracked_of_opened {natsUrl : Bool} {table : Notifications} {ctx : Context} {caller : Uuid}
    {opened : Boot} (reached : Reaches step Heard (start natsUrl table.rows) state)
    (resolved : recipient ctx = .ok caller)
    (stepped : state.step (.hub (.subscribe ctx)) = some opened)
    (run : Reaches step Gapless opened after) :
    after.Steady table.rows ∧ ∃ stream, after.hub.streams[state.hub.streams.length]? = some stream ∧
      stream.recipientId = caller ∧ Tracked state.hub.store.log.length after stream := by
  have steady := steady_of_reaches reached
  have heard : state.Heard (.hub (.subscribe ctx)) := by
    refine ⟨by simp, ?_⟩
    intro failure signal recipientId id next same
    contradiction
  have begins := steady_step steady heard stepped
  have first : ∃ stream, opened.hub.streams[state.hub.streams.length]? = some stream ∧
      stream.recipientId = caller ∧ Tracked state.hub.store.log.length opened stream := by
    cases moves_of_step stepped with
    | hub admitted moved =>
      cases Realtime.moves_of_step moved with
      | @opens _ other accepted =>
        obtain rfl : other = caller := Except.ok.inj (accepted.symm.trans resolved)
        exact ⟨_, List.getElem?_concat_length, rfl, tracked_of_opens steady other rfl⟩
      | refuses refused =>
        rw [resolved] at refused
        contradiction
  have keeps : ∀ earlier action later, (Steady table.rows earlier ∧
      ∃ stream, earlier.hub.streams[state.hub.streams.length]? = some stream ∧
        stream.recipientId = caller ∧ Tracked state.hub.store.log.length earlier stream) →
      Gapless earlier action → step earlier action = some later →
      (Steady table.rows later ∧
      ∃ stream, later.hub.streams[state.hub.streams.length]? = some stream ∧
        stream.recipientId = caller ∧ Tracked state.hub.store.log.length later stream) := by
    intro earlier action later held gapless moved
    obtain ⟨steady, stream, there, own, tracked⟩ := held
    refine ⟨steady_step steady gapless.1 moved, ?_⟩
    obtain ⟨now, still, onward, placed⟩ := tracked_step steady gapless.2 moved there tracked
    exact ⟨now, still, onward.recipientId.trans own, placed⟩
  exact run.invariant keeps ⟨begins, first⟩

end Boot

end SvcNotifier
