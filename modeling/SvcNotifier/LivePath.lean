import SvcNotifier.Turns
import SvcNotifier.Supervision

/-!
# The live path

A client that reads its stream is served every event the stream is due, and a listener that
listens dispatches everything. So a change that is committed to a listener that listens is
served on every open stream of its recipient, however early the stream was opened; one that is
committed before is not.
-/

namespace SvcNotifier.Boot

open Library Program

variable {state after : Boot} {natsUrl : Bool} {table : Notifications}

/-! ## Reading a stream -/

/-- `main` has come to serve at most, and the flag has not been sent. -/
def Up (state : Boot) : Prop :=
  state.process.shutdown = false ∧ Process.rank state.process.main ≤ 8

/-- `main` comes to serve, and stays there. -/
theorem up_step {action : Action} (up : state.Up) (stepped : state.step action = some after) :
    after.Up ∧ (state.serves = true → after.serves = true) := by
  cases moves_of_step stepped with
  | @main process moved =>
    obtain ⟨down, rank⟩ := up
    rw [Process.step_main (Process.running_of_step moved)] at moved
    unfold Process.runMain at moved
    have elsewhere : ∀ main, state.process.main = main → main ≠ .serving →
        state.serves = true → process.main == .serving := by
      intro main at_ other serving
      rw [Boot.serves, at_] at serving
      exact absurd (beq_iff_eq.mp serving) other
    split at moved
    case h_3 at_ =>
      obtain rfl := Option.some.inj moved
      refine ⟨⟨down, ?_⟩, elsewhere _ at_ (by simp)⟩
      cases natsUrl : state.process.natsUrl with
      | true => simp [Process.rank]
      | false => simp [Process.rank]
    case h_9 at_ =>
      rw [down] at moved
      contradiction
    case h_10 at_ => simp [Process.rank, at_] at rank
    case h_11 at_ => simp [Process.rank, at_] at rank
    case h_12 at_ => simp [Process.rank, at_] at rank
    case h_13 at_ => simp [Process.rank, at_] at rank
    case h_14 => contradiction
    case h_15 => contradiction
    all_goals
      rename_i at_
      obtain rfl := Option.some.inj moved
      exact ⟨⟨down, by simp [Process.rank]⟩, elsewhere _ at_ (by simp)⟩
  | _ => exact ⟨up, id⟩

/-- How much a stream has served. -/
def progress (index : Nat) (state : Boot) : Nat :=
  match state.hub.streams[index]? with
  | some stream => stream.items.length
  | none => 0

/-- How much a stream that is there has served. -/
theorem progress_eq {index : Nat} {stream : Stream}
    (there : state.hub.streams[index]? = some stream) :
    state.progress index = stream.items.length := by
  unfold progress
  rw [there]

/-- A stream takes back nothing it has served. -/
theorem progress_step {action : Action} {index : Nat} {stream : Stream}
    (there : state.hub.streams[index]? = some stream) (stepped : state.step action = some after) :
    state.progress index ≤ after.progress index := by
  obtain ⟨now, still, onward⟩ := stream_step stepped there
  rw [progress_eq there, progress_eq still]
  exact onward.items.length_le

/-- Reading a stream that stays open serves one more item. -/
theorem progress_poll {index : Nat} {stream now : Stream}
    (there : state.hub.streams[index]? = some stream)
    (stepped : state.step (.hub (.poll index)) = some after)
    (still : after.hub.streams[index]? = some now) (open_ : now.receiving = true) :
    state.progress index < after.progress index := by
  rw [progress_eq there, progress_eq still]
  cases moves_of_step stepped with
  | hub admitted moved =>
    cases Realtime.moves_of_step moved with
    | @poll _ current polled found receiving given =>
      obtain rfl := Option.some.inj (there.symm.trans found)
      have bound : index < state.hub.streams.length := (List.getElem?_eq_some_iff.mp there).1
      have set : (state.hub.streams.set index polled)[index]? = some now := still
      rw [List.getElem?_set_self bound] at set
      obtain rfl := Option.some.inj set
      unfold Realtime.pollStream at given
      split at given
      · obtain rfl := Option.some.inj given
        simp [Stream.serve]
      · obtain rfl := Option.some.inj given
        contradiction
      · split at given
        · contradiction
        · obtain rfl := Option.some.inj given
          contradiction

/-- A client has something to read from a stream that has not served all it is due. -/
theorem turn_of_due {index : Nat} {stream : Stream} (steady : state.Steady table.rows)
    (serving : state.serves = true) (there : state.hub.streams[index]? = some stream)
    (open_ : stream.receiving = true)
    (behind : stream.items.length < (reckoned (state.hub.due stream)).length) :
    Endless.Enabled step (· = .hub (.poll index)) state := by
  have skips := steady.faithful.neverSkips there
  have gives : ∃ polled, state.hub.step (.poll index) = some polled := by
    rcases skips.served open_ _ (List.getElem?_eq_getElem behind) with given | ⟨lost, given⟩
    · obtain ⟨_, polled, _, _, stepped, _⟩ := given
      exact ⟨polled, stepped⟩
    · obtain ⟨_, polled, _, _, stepped, _⟩ := given
      exact ⟨polled, stepped⟩
  obtain ⟨polled, stepped⟩ := gives
  refine ⟨.hub (.poll index), rfl, ?_⟩
  simp [step, admits, serving, stepped]

/-- The signals a stream is due. -/
def dues (index : Nat) (state : Boot) : List Dispatched :=
  match state.hub.streams[index]? with
  | some stream => state.hub.due stream
  | none => []

/-- The signals a stream that is there is due. -/
theorem dues_eq {index : Nat} {stream : Stream}
    (there : state.hub.streams[index]? = some stream) :
    state.dues index = state.hub.due stream := by
  unfold dues
  rw [there]

/-- What an open stream is due it stays due. -/
theorem dues_step {action : Action} {index : Nat} {stream : Stream}
    (steady : state.Steady table.rows) (there : state.hub.streams[index]? = some stream)
    (open_ : stream.receiving = true) (stepped : state.step action = some after) :
    state.dues index <+: after.dues index := by
  obtain ⟨now, still, onward⟩ := stream_step stepped there
  have opened := (steady.faithful.live stream (List.mem_of_getElem? there) open_).opened
  have grown : state.hub.dispatched <+: after.hub.dispatched := by
    cases moves_of_step stepped with
    | hub admitted moved => exact Realtime.dispatched_step moved
    | _ => exact List.prefix_rfl
  obtain ⟨more, dispatched⟩ := grown
  have same : after.hub.due now = after.hub.due stream := by
    rw [Realtime.due, Realtime.due, onward.since, onward.recipientId]
  rw [dues_eq there, dues_eq still, same, Realtime.due_append opened dispatched.symm]
  exact List.prefix_append _ _

/-- What an open stream has served is what it was due, as far as it goes. -/
theorem served_of_dues {index count : Nat} {stream : Stream}
    (steady : state.Steady table.rows) (there : state.hub.streams[index]? = some stream)
    (open_ : stream.receiving = true) {event : ClientEvent}
    (due : (reckoned (state.dues index))[count]? = some event)
    (read : count < state.progress index) :
    .ok (intoUnion event) ∈ stream.items := by
  obtain ⟨events, verdict, items, early, tail⟩ := (steady.faithful.neverSkips there).inOrder
  have whole : verdict = [] := by
    rcases tail with none_ | ⟨closed, _⟩
    · exact none_
    · rw [open_] at closed
      contradiction
  rw [whole, List.append_nil] at items
  rw [progress_eq there, items, List.length_map] at read
  rw [dues_eq there] at due
  have given : events[count]? = some event := by
    obtain ⟨rest, same⟩ := early
    rw [← same, List.getElem?_append_left read] at due
    exact due
  rw [items]
  exact List.mem_map_of_mem (List.mem_of_getElem? given)

/-! ## Fates -/

/-- A signal has been served on a stream: the client has its event, or it was an `Added` whose
row was gone by its re-read. -/
def Served (state : Boot) (index : Nat) (signal : NotificationSignal) : Prop :=
  ∃ stream entry, state.hub.streams[index]? = some stream ∧ entry ∈ state.hub.due stream ∧
    entry.signal = signal ∧
    ((∃ event, entry.fate = .sent event ∧ signal.Tells event ∧
      .ok (intoUnion event) ∈ stream.items) ∨
    (entry.fate = .gone ∧ ∃ recipientId id, signal = .added recipientId id ∧
      ∀ row ∈ entry.rows, row.owned ≠ (recipientId, id)))

/-- Where a stream is open, the listener listened when a signal was committed for it, and the
signal is among those it dispatches for the stream. -/
theorem Tracked.heard {mark place : Nat} {stream : Stream} (tracked : Tracked mark state stream)
    (open_ : stream.receiving = true) {signal : NotificationSignal} (since : mark ≤ place)
    (committed : state.hub.store.log[place]? = some signal)
    (own : signal.recipientId = stream.recipientId) :
    ∃ base, state.loop = .listening base ∧ base + stream.since ≤ place := by
  rcases tracked.placed with ⟨base, listening, placed⟩ | ⟨early, placed, others⟩
  · exact ⟨base, listening, Nat.le_trans placed since⟩
  · -- What goes unheard is not the recipient's.
    have heard : state.unheard[place]? ≠ some signal := by
      intro inside
      apply others open_ signal _ own
      rw [List.mem_iff_getElem?]
      refine ⟨place - mark, ?_⟩
      rw [List.getElem?_drop, Nat.add_sub_cancel' since]
      exact inside
    by_cases listens : state.listens = true
    · obtain ⟨base, listening⟩ := listening_of_listens listens
      refine ⟨base, listening, ?_⟩
      rw [early]
      by_cases before : place < base
      · exfalso
        apply heard
        unfold unheard
        rw [listening]
        exact (List.getElem?_take_of_lt before).trans committed
      · exact Nat.not_lt.mp before
    · rw [unheard_of_deaf (Bool.eq_false_iff.mpr listens)] at heard
      exact absurd committed heard

/-- An idle listener that is past a signal has dispatched it for the streams opened before. -/
theorem dispatched_of_idle {base place : Nat} {stream : Stream}
    (follows : state.hub.Follows base) (idle : state.hub.dispatching = none)
    (past : place < state.hub.position) {signal : NotificationSignal}
    (committed : state.hub.store.log[place]? = some signal)
    (opened : base + stream.since ≤ place) (own : signal.recipientId = stream.recipientId) :
    ∃ entry ∈ state.hub.due stream, entry.signal = signal := by
  obtain ⟨offset, rfl⟩ := Nat.exists_eq_add_of_le opened
  have told : (state.hub.dispatched.map Dispatched.signal)[stream.since + offset]? =
      some signal := by
    rw [follows.idle idle, List.getElem?_drop, ← Nat.add_assoc, List.getElem?_take_of_lt past]
    exact committed
  rw [List.getElem?_map] at told
  obtain ⟨entry, at_, same⟩ := Option.map_eq_some_iff.mp told
  refine ⟨entry, ?_, same⟩
  rw [Realtime.due, List.mem_filter]
  constructor
  · rw [List.mem_iff_getElem?]
    exact ⟨offset, by rw [List.getElem?_drop]; exact at_⟩
  · rw [same]
    exact beq_iff_eq.mpr own

/-! ## A stream that is attended to -/

/-- A stream a recipient opens at a moment of a run and keeps open: its ring does not overflow,
and the listener and the client get their turns. -/
structure Attended {guard : Boot → Action → Prop}
    (run : Endless step guard (start natsUrl table.rows)) (moment : Nat) (caller : Uuid) :
    Prop where
  /-- The recipient opens it at that moment. -/
  opens : ∃ ctx, recipient ctx = .ok caller ∧ run.label moment = .hub (.subscribe ctx)
  /-- It stays open from then on. -/
  stays : ∀ later, moment < later → ∃ stream,
    (run.state later).hub.streams[(run.state moment).hub.streams.length]? = some stream ∧
      stream.receiving = true
  /-- The listener gets its turns. -/
  listener : run.Fair Action.ofListener
  /-- So does the client. -/
  client : run.Fair (· = .hub (.poll (run.state moment).hub.streams.length))

section

variable {run : Endless step Gapless (start natsUrl table.rows)} {moment : Nat} {caller : Uuid}

/-- What is known of an attended stream at any later moment. -/
theorem Attended.at_ (attended : Attended run moment caller) {later : Nat}
    (after : moment < later) : (run.state later).Steady table.rows ∧
    (run.state later).serves = true ∧ ∃ stream,
      (run.state later).hub.streams[(run.state moment).hub.streams.length]? = some stream ∧
        stream.receiving = true ∧ stream.recipientId = caller ∧
        Tracked (run.state moment).hub.store.log.length (run.state later) stream := by
  obtain ⟨ctx, resolved, opens⟩ := attended.opens
  have heard : ∀ state action, Gapless state action → Heard state action :=
    fun _ _ gapless => gapless.1
  have reached : Reaches step Heard (start natsUrl table.rows) (run.state moment) := by
    obtain ⟨actions, steps⟩ := run.reaches moment
    exact ⟨actions, steps.weaken heard⟩
  have moved := run.moved moment
  rw [opens] at moved
  obtain ⟨steady, stream, there, own, tracked⟩ :=
    tracked_of_opened reached resolved moved (run.reaches_on (moment + 1) after)
  obtain ⟨same, still, open_⟩ := attended.stays later after
  rw [there] at still
  obtain rfl := Option.some.inj still
  refine ⟨steady, ?_, stream, there, open_, own, tracked⟩
  -- `main` served when the stream was opened.
  have up : (run.state moment).Up := by
    have begins : (start natsUrl table.rows).Up := ⟨rfl, Nat.zero_le 8⟩
    exact (run.reaches moment).invariant (fun _ _ _ up _ stepped => (up_step up stepped).1) begins
  have served : (run.state moment).serves = true := admitted_of_step moved
  have both : (run.state later).Up ∧ (run.state later).serves = true := by
    apply run.stays (fun state => state.Up ∧ state.serves = true) ?_ ⟨up, served⟩ later
      (Nat.le_of_lt after)
    intro m _ held
    have next := up_step held.1 (run.moved m)
    exact ⟨next.1, next.2 held.2⟩
  exact both.2

/-- What an attended stream is due it stays due. -/
theorem Attended.dues_on (attended : Attended run moment caller) {now : Nat}
    (after : moment < now) : ∀ later, now ≤ later →
    (run.state now).dues (run.state moment).hub.streams.length <+:
      (run.state later).dues (run.state moment).hub.streams.length := by
  apply run.stays (fun state => (run.state now).dues (run.state moment).hub.streams.length <+:
    state.dues (run.state moment).hub.streams.length) ?_ List.prefix_rfl
  intro m later grown
  obtain ⟨steady, _, stream, there, open_, _⟩ := attended.at_ (Nat.lt_of_lt_of_le after later)
  exact grown.trans (dues_step steady there open_ (run.moved m))

/-- What is reckoned of the dues of an attended stream only grows. -/
theorem Attended.reckoned_on (attended : Attended run moment caller) {now : Nat}
    (after : moment < now) {later : Nat} (past : now ≤ later) :
    reckoned ((run.state now).dues (run.state moment).hub.streams.length) <+:
      reckoned ((run.state later).dues (run.state moment).hub.streams.length) := by
  obtain ⟨more, grown⟩ := attended.dues_on after later past
  rw [← grown]
  exact reckoned_grows _ _

/-- A client that gets its turns is served as much as the stream is due. -/
theorem Attended.reads (attended : Attended run moment caller) {now : Nat}
    (after : moment < now) {count : Nat}
    (due : count <
      (reckoned ((run.state now).dues (run.state moment).hub.streams.length)).length) :
    ∃ later, now ≤ later ∧
      count < (run.state later).progress (run.state moment).hub.streams.length := by
  by_contra never
  have behind : ∀ later, now ≤ later →
      (run.state later).progress (run.state moment).hub.streams.length ≤ count := by
    intro later past
    by_contra read
    exact never ⟨later, past, Nat.not_le.mp read⟩
  apply run.not_bounded (fun state => state.progress (run.state moment).hub.streams.length)
    attended.client ?_ ?_ ?_ behind
  · intro later past
    obtain ⟨steady, serving, stream, there, open_, _⟩ :=
      attended.at_ (Nat.lt_of_lt_of_le after past)
    have long := (attended.reckoned_on after past).length_le
    have less := behind later past
    rw [progress_eq there] at less
    rw [dues_eq there] at long
    exact turn_of_due steady serving there open_ (by omega)
  · intro later past own
    obtain ⟨_, _, stream, there, _⟩ := attended.at_ (Nat.lt_of_lt_of_le after past)
    obtain ⟨now, still, open_⟩ :=
      attended.stays (later + 1) (Nat.lt_succ_of_le (Nat.le_of_lt (Nat.lt_of_lt_of_le after past)))
    have moved := run.moved later
    rw [own] at moved
    exact progress_poll there moved still open_
  · intro later past
    obtain ⟨_, _, stream, there, _⟩ := attended.at_ (Nat.lt_of_lt_of_le after past)
    exact progress_step there (run.moved later)

/-- Every change to the recipient that is committed after an attended stream was opened is
served on it. -/
theorem Attended.served (attended : Attended run moment caller) {now place : Nat}
    (after : moment < now) (since : (run.state moment).hub.store.log.length ≤ place)
    {signal : NotificationSignal}
    (committed : (run.state now).hub.store.log[place]? = some signal)
    (own : signal.recipientId = caller) :
    ∃ later, now ≤ later ∧
      (run.state later).Served (run.state moment).hub.streams.length signal := by
  have bound := (List.getElem?_eq_some_iff.mp committed).1
  obtain ⟨_, _, first, _, open_, firstOwn, tracked⟩ := attended.at_ after
  obtain ⟨base, listening, _⟩ := tracked.heard open_ since committed (own.trans firstOwn.symm)
  obtain ⟨idle, later, free, past⟩ := catches_up attended.listener listening (place + 1) bound
  obtain ⟨steady, _, stream, there, open_, streamOwn, tracked⟩ :=
    attended.at_ (Nat.lt_of_lt_of_le after later)
  have still : (run.state idle).hub.store.log[place]? = some signal := by
    obtain ⟨more, grown⟩ := log_on run now idle later
    rw [← grown, List.getElem?_append_left bound]
    exact committed
  obtain ⟨base, listening, opened⟩ :=
    tracked.heard open_ since still (own.trans streamOwn.symm)
  obtain ⟨entry, member, same⟩ := dispatched_of_idle (steady.follows base listening) free past
    still opened (own.trans streamOwn.symm)
  have live := steady.faithful.live stream (List.mem_of_getElem? there) open_
  have accounted := (steady.faithful.neverSkips there).accounted entry member
  unfold Dispatched.Accounted at accounted
  rcases fate_of_whole live.whole member with ⟨event, sent, inside⟩ | gone
  · -- The event is in the ring; the client comes to it.
    obtain ⟨count, at_⟩ := List.mem_iff_getElem?.mp inside
    rw [← dues_eq there] at at_
    have due := (List.getElem?_eq_some_iff.mp at_).1
    obtain ⟨last, reads, read⟩ := attended.reads (Nat.lt_of_lt_of_le after later) due
    have passed : moment < last := Nat.lt_of_lt_of_le after (Nat.le_trans later reads)
    obtain ⟨steadyLast, _, now, thereLast, openLast, _⟩ := attended.at_ passed
    obtain ⟨rest, grown⟩ := attended.reckoned_on (Nat.lt_of_lt_of_le after later) reads
    have given : (reckoned ((run.state last).dues (run.state moment).hub.streams.length))[count]? =
        some event := by
      rw [← grown, List.getElem?_append_left due]
      exact at_
    refine ⟨last, Nat.le_trans later reads, now, entry, thereLast, ?_, same, ?_⟩
    · rw [← dues_eq thereLast]
      apply (attended.dues_on (Nat.lt_of_lt_of_le after later) last reads).subset
      rw [dues_eq there]
      exact member
    · left
      simp only [sent, same] at accounted
      exact ⟨event, sent, accounted, served_of_dues steadyLast thereLast openLast given read⟩
  · refine ⟨idle, later, stream, entry, there, member, same, Or.inr ⟨gone, ?_⟩⟩
    simp only [gone, same] at accounted
    exact accounted

end

/-! ## The main result -/

/-- There is no gap at boot where every change to a recipient with an open stream is committed
to a listener that listens: from the opening of a stream on, everything committed for its
recipient has been dispatched for it or is still to be, what has been dispatched is not skipped,
and in a fair run it is all served. A change committed while the listener does not listen is
never dispatched for the streams that were open. -/
theorem no_gap_at_boot (natsUrl : Bool) (table : Notifications) :
    (∀ state ctx caller opened, Reaches step Heard (start natsUrl table.rows) state →
      recipient ctx = .ok caller → state.step (.hub (.subscribe ctx)) = some opened →
      ∀ later, Reaches step Gapless opened later →
        ∃ stream, later.hub.streams[state.hub.streams.length]? = some stream ∧
          stream.recipientId = caller ∧
          later.hub.NeverSkips state.hub.streams.length stream ∧
          (stream.receiving = true → later.Kept stream state.hub.store.log.length)) ∧
    (∀ (run : Endless step Gapless (start natsUrl table.rows)) (moment : Nat) (caller : Uuid),
      Attended run moment caller → ∀ now place signal, moment < now →
        (run.state moment).hub.store.log.length ≤ place →
        (run.state now).hub.store.log[place]? = some signal → signal.recipientId = caller →
        ∃ later, now ≤ later ∧
          (run.state later).Served (run.state moment).hub.streams.length signal) ∧
    (∀ state action after, Reaches step Heard (start natsUrl table.rows) state →
      state.step action = some after → ¬ state.Covered action →
      ∃ (index : Nat) (stream : Stream), state.hub.streams[index]? = some stream ∧
        stream.receiving = true ∧ ∀ later : Boot, Reaches step Heard after later →
          ∀ now : Stream, later.hub.streams[index]? = some now →
            ¬ later.Kept now state.hub.store.log.length) := by
  refine ⟨?_, ?_, ?_⟩
  · intro state ctx caller opened reached resolved stepped later run
    obtain ⟨steady, stream, there, own, tracked⟩ :=
      tracked_of_opened reached resolved stepped run
    refine ⟨stream, there, own, steady.faithful.neverSkips there, ?_⟩
    intro receiving
    exact tracked.kept steady (List.mem_of_getElem? there) receiving
  · intro run moment caller attended now place signal after since committed own
    exact attended.served after since committed own
  · intro state action after reached stepped uncovered
    exact lost_of_uncovered (steady_of_reaches reached) stepped uncovered

/-- `main` comes to serve, without an intake. -/
def serving : List Action := [.main, .main, .main, .main, .main, .main]

/-- A recipient opens a stream before the listener listens, and a fan-out to them is committed;
then the listener connects and listens. -/
def listensLate : List Action :=
  serving ++ .hub (.subscribe sampleReader) ::
    (sampleFanOut ++ [Store.Action.commit 0]).map (fun action => .hub (.database action)) ++
    [.connect, .listen]

/-- The listener listens before the stream is opened; the fan-out is dispatched and served. -/
def listensEarly : List Action :=
  .main :: .connect :: .listen :: [.main, .main, .main, .main, .main] ++
    .hub (.subscribe sampleReader) ::
    (sampleFanOut ++ [Store.Action.commit 0]).map (fun action => .hub (.database action)) ++
    sampleDispatch.map .hub ++ [.hub .receive, .hub (.run none), .hub .finish, .hub (.poll 0)]

/-- A step in which no re-read fails, as a check. -/
def hears (state : Boot) : Action → Bool
  | .hub action => losesNothing state.hub action
  | _ => true

/-- A step that passes the check fails no re-read. -/
theorem heard_of_hears (state : Boot) (action : Action) (passed : state.hears action = true) :
    state.Heard action := by
  cases action with
  | hub action => exact heard_of_losesNothing state.hub action passed
  | _ => trivial

/-- A step that leaves no gap, as a check: nothing is written before the listener listens. -/
def leavesNoGap (state : Boot) (action : Action) : Bool :=
  state.hears action && match action with
    | .hub (.database _) => state.listens
    | _ => true

/-- A step that passes the check leaves no gap. -/
theorem gapless_of_leavesNoGap (state : Boot) (action : Action)
    (passed : state.leavesNoGap action = true) : state.Gapless action := by
  obtain ⟨heard, covered⟩ := Bool.and_eq_true_iff.mp passed
  refine ⟨heard_of_hears state action heard, ?_⟩
  cases action with
  | hub action =>
    cases action with
    | database action => exact Or.inl covered
    | _ => trivial
  | _ => trivial

/-- The process `listensLate` leads to. -/
def deafAtFirst : Boot := (play step (start false []) listensLate).get (by decide)

/-- The process `listensEarly` leads to. -/
def wellServed : Boot := (play step (start false []) listensEarly).get (by decide)

/-- The boot without a gap is a run. -/
theorem listensEarly_steps : Steps step Gapless (start false Notifications.empty.rows)
    listensEarly wellServed := by
  have played : play (fun state action => if leavesNoGap state action then state.step action
      else none) (start false []) listensEarly = some wellServed := rfl
  exact steps_of_checked_play played gapless_of_leavesNoGap

/-- The boot with a gap is a run. -/
theorem listensLate_steps : Steps step Heard (start false Notifications.empty.rows)
    listensLate deafAtFirst := by
  have played : play (fun state action => if hears state action then state.step action else none)
      (start false []) listensLate = some deafAtFirst := rfl
  exact steps_of_checked_play played heard_of_hears

/-- The boot without a gap, and then nothing. -/
def wellServedRun : Endless step Gapless (start false Notifications.empty.rows) :=
  listensEarly_steps.resting (show Gapless wellServed .snapshot from ⟨trivial, trivial⟩) rfl

/-- The boot with a gap, and then nothing. -/
def deafRun : Endless step Heard (start false Notifications.empty.rows) :=
  listensLate_steps.resting (show Heard deafAtFirst .snapshot from trivial) rfl

/-- A stream that is open at every moment of the labels and at their end. -/
theorem stays_open {guard : Boot → Action → Prop} {actions : List Action} {moment : Nat}
    {last : Boot}
    (run : Steps step guard (start false Notifications.empty.rows) actions last)
    (during : ∀ later, later < actions.length → moment < later →
      (stateAt step (start false Notifications.empty.rows) actions later).hub.streams[0]?.map
        Stream.receiving = some true)
    (finally_ : last.hub.streams[0]?.map Stream.receiving = some true) (later : Nat)
    (after : moment < later) : ∃ stream,
      (stateAt step (start false Notifications.empty.rows) actions later).hub.streams[0]? =
        some stream ∧ stream.receiving = true := by
  apply Option.map_eq_some_iff.mp
  by_cases inside : later < actions.length
  · exact during later inside after
  · rw [run.stateAt_of_length_le (Nat.not_lt.mp inside)]
    exact finally_

/-- A listener that has come to the end of the log has nothing to do. -/
theorem nothing_to_do {action : Action} (own : action.ofListener)
    (idle : state.hub.dispatching = none)
    (caughtUp : state.hub.position = state.hub.store.log.length) : state.step action = none := by
  cases action with
  | hub action =>
    have none_ : state.hub.step action = none := by
      cases action with
      | receive => simp [Realtime.step, idle, caughtUp]
      | run failure => simp [Realtime.step, idle]
      | finish => simp [Realtime.step, idle]
      | _ => contradiction
    simp [step, none_]
  | _ => contradiction

/-- The stream of the boot without a gap is attended to. -/
theorem wellServed_attended : Attended wellServedRun 8 (sampleId 2) where
  opens := ⟨sampleReader, rfl, rfl⟩
  stays := stays_open listensEarly_steps (by decide) rfl
  listener := listensEarly_steps.resting_fair _ _ fun _ own => nothing_to_do own rfl rfl
  client := listensEarly_steps.resting_fair _ _ fun _ own => by
    rw [own]
    rfl

/-- The stream of the boot with a gap is attended to. -/
theorem deaf_attended : Attended deafRun 6 (sampleId 2) where
  opens := ⟨sampleReader, rfl, rfl⟩
  stays := stays_open listensLate_steps (by decide) rfl
  listener := listensLate_steps.resting_fair _ _ fun _ own => nothing_to_do own rfl rfl
  client := listensLate_steps.resting_fair _ _ fun _ own => by
    rw [own]
    rfl

/-- The fan-out is served on the stream that was opened before it, once the listener listens. -/
theorem no_gap_at_boot_sample :
    (∃ signal later, wellServed.hub.store.log[0]? = some signal ∧
      (wellServedRun.state later).Served 0 signal) ∧
    ∃ stream, wellServed.hub.streams[0]? = some stream ∧ wellServed.Kept stream 0 := by
  have claims := no_gap_at_boot false .empty
  have last : wellServedRun.state 27 = wellServed :=
    listensEarly_steps.stateAt_of_length_le (by decide)
  constructor
  · have there : wellServed.hub.store.log[0]?.isSome = true := by decide
    obtain ⟨signal, committed⟩ := Option.isSome_iff_exists.mp there
    have own : wellServed.hub.store.log[0]?.map NotificationSignal.recipientId =
        some (sampleId 2) := by decide
    rw [committed] at own
    obtain ⟨later, _, served⟩ := claims.2.1 wellServedRun 8 (sampleId 2) wellServed_attended 27 0
      signal (by decide) (by decide) (by rw [last]; exact committed) (Option.some.inj own)
    exact ⟨signal, later, committed, served⟩
  · have reached : Reaches step Heard (start false Notifications.empty.rows)
        (wellServedRun.state 8) := by
      obtain ⟨actions, run⟩ := wellServedRun.reaches 8
      exact ⟨actions, run.weaken fun _ _ gapless => gapless.1⟩
    obtain ⟨stream, there, _, _, kept⟩ := claims.1 _ sampleReader (sampleId 2) _ reached rfl
      (wellServedRun.moved 8) _ (wellServedRun.reaches_on 9 (show 9 ≤ 27 by decide))
    rw [last] at there kept
    have open_ : wellServed.hub.streams[0]?.map Stream.receiving = some true := rfl
    have first : wellServed.hub.streams[0]? = some stream := there
    rw [first] at open_
    exact ⟨stream, first, kept (Option.some.inj open_)⟩

/-- A fan-out committed after the stream was opened is never served where the listener listens
only later. -/
theorem boot_gap_loses_a_change :
    ¬ ∀ (run : Endless step Heard (start false Notifications.empty.rows)) (moment : Nat)
      (caller : Uuid), Attended run moment caller → ∀ now place signal, moment < now →
        (run.state moment).hub.store.log.length ≤ place →
        (run.state now).hub.store.log[place]? = some signal → signal.recipientId = caller →
        ∃ later, now ≤ later ∧
          (run.state later).Served (run.state moment).hub.streams.length signal := by
  intro claimed
  have there : deafAtFirst.hub.store.log[0]?.isSome = true := by decide
  obtain ⟨signal, committed⟩ := Option.isSome_iff_exists.mp there
  have own : deafAtFirst.hub.store.log[0]?.map NotificationSignal.recipientId =
      some (sampleId 2) := by decide
  rw [committed] at own
  have last : ∀ later, 17 ≤ later → deafRun.state later = deafAtFirst := fun later past =>
    listensLate_steps.stateAt_of_length_le past
  obtain ⟨later, past, stream, entry, _, member, _⟩ := claimed deafRun 6 (sampleId 2)
    deaf_attended 17 0 signal (by decide) (by decide)
    (by rw [last 17 (Nat.le_refl 17)]; exact committed) (Option.some.inj own)
  rw [last later past] at member
  have nothing : deafAtFirst.hub.dispatched = [] := rfl
  rw [Realtime.due, nothing, List.drop_nil] at member
  contradiction

end SvcNotifier.Boot
