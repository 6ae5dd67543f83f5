import SvcNotifier.Library.Waits
import SvcNotifier.Standing

/-!
# Deadlocks

A writing statement waits for the transaction that stands on a row it is about to visit, and for
those that came to the row before it and sleep there. PostgreSQL ends a cycle of such waits by
failing one of its transactions. What can be on a cycle is told by whose rows an edge crosses:
those of one recipient, or those of one source event, since a mutation never waits for a fan-out.
A mutation of one notification that waits holds nothing, so that a wait for it is a wait for
whatever it waits for.
-/

namespace SvcNotifier

open Library Program

namespace Queues

variable {queues after : Queues} {initial : List Row} {sid other : Nat} {session : Session}

/-! ## Who waits for whom -/

/-- A session waits for the one that stands on a row it is yet to visit, and behind those that sleep
at the row it sleeps at. -/
def WaitsFor (queues : Queues) (sid other : Nat) : Prop :=
  queues.store.HeldUpBy sid other ∨ queues.Behind sid other

/-- The identifiers a transaction mints when it opens are new. -/
def Coins (queues : Queues) : Action → Prop
  | .act action => queues.store.Coins action
  | _ => True

/-- What holds in every state of a run whose minted identifiers are new. -/
structure Queueing (initial : List Row) (queues : Queues) : Prop where
  /-- The database. -/
  store : Store.Orderly initial queues.store
  /-- The sessions that sleep. -/
  orderly : queues.Orderly

/-- Every state of a run whose minted identifiers are new. -/
theorem queueing_of_reaches {table : Notifications}
    (reached : Reaches step Coins (start table.rows) queues) : Queueing table.rows queues := by
  have keeps : ∀ before action after, Queueing table.rows before → before.Coins action →
      step before action = some after → Queueing table.rows after := by
    intro before action after queueing coins stepped
    refine ⟨?_, orderly_step queueing.orderly stepped⟩
    rcases store_of_step stepped with same | ⟨moved, rfl, stepped'⟩
    · rw [same]
      exact queueing.store
    · exact Store.orderly_step queueing.store coins stepped'
  exact reached.invariant keeps ⟨Store.start_orderly table, start_orderly table.rows⟩

/-- A session that sleeps runs a mutation of the owner of the row. -/
theorem Queueing.mutation_of_asleep (queueing : Queueing initial queues) {id : Uuid} {turn : Nat}
    (asleep : queues.asleep sid = some (id, turn)) :
    ∃ session recipientId, queues.store.sessions sid = some session ∧
      session.operation.caller = some recipientId ∧ queues.store.Owned recipientId id := by
  obtain ⟨session, statement, next, snapshot, targets, found, at_, locks, target, member, rfl⟩ :=
    queueing.orderly.comes sid id turn asleep
  obtain ⟨-, -, caller, owned⟩ := queueing.store.selected found at_ member locks
  exact ⟨session, target.recipientId, found, caller, owned⟩

/-- Sessions that sleep at one row run mutations of one recipient. -/
theorem Queueing.mutation_behind {recipientId : Uuid} (queueing : Queueing initial queues)
    (behind : queues.Behind sid other) (found : queues.store.sessions sid = some session)
    (caller : session.operation.caller = some recipientId) :
    ∃ session', queues.store.sessions other = some session' ∧
      session'.operation.caller = some recipientId := by
  obtain ⟨id, mine, theirs, asleep, also, -⟩ := behind
  obtain ⟨one, recipient, is, calls, owned⟩ := queueing.mutation_of_asleep asleep
  obtain ⟨session', recipient', found', calls', owned'⟩ := queueing.mutation_of_asleep also
  obtain rfl := Option.some.inj (found.symm.trans is)
  have same : recipient = recipientId := Option.some.inj (calls.symm.trans caller)
  refine ⟨session', found', ?_⟩
  rw [calls', queueing.store.single.owner owned' owned, same]

/-- A mutation waits for mutations of its own caller. -/
theorem Queueing.mutation_waits {recipientId : Uuid} (queueing : Queueing initial queues)
    (waits : queues.WaitsFor sid other) (found : queues.store.sessions sid = some session)
    (caller : session.operation.caller = some recipientId) :
    ∃ session', queues.store.sessions other = some session' ∧
      session'.operation.caller = some recipientId := by
  rcases waits with held | behind
  · exact queueing.store.mutation_held_up held found caller
  · exact queueing.mutation_behind behind found caller

/-- A fan-out waits in no queue. -/
theorem Queueing.fanOut_waits {nowV7 : Nat → Uuid} {command : DeliverNotification}
    (queueing : Queueing initial queues) (waits : queues.WaitsFor sid other)
    (found : queues.store.sessions sid = some session)
    (operation : session.operation = .fanOut nowV7 command) : queues.store.HeldUpBy sid other := by
  rcases waits with held | ⟨id, mine, theirs, asleep, -⟩
  · exact held
  · obtain ⟨one, recipientId, is, caller, -⟩ := queueing.mutation_of_asleep asleep
    obtain rfl := Option.some.inj (found.symm.trans is)
    rw [operation] at caller
    contradiction

/-- A session that waits has a statement under way that is yet to visit a row. -/
theorem Queueing.waiter (queueing : Queueing initial queues) (waits : queues.WaitsFor sid other) :
    ∃ session statement next snapshot targets, queues.store.sessions sid = some session ∧
      session.stage = .scanning statement next snapshot targets ∧ ∃ target, target ∈ targets := by
  rcases waits with
    ⟨-, session, statement, next, snapshot, targets, found, at_, target, member, -⟩ |
    ⟨id, mine, theirs, asleep, -⟩
  · exact ⟨session, statement, next, snapshot, targets, found, at_, target, member⟩
  · obtain ⟨session, statement, next, snapshot, targets, found, at_, -, target, member, -⟩ :=
      queueing.orderly.comes sid id mine asleep
    exact ⟨session, statement, next, snapshot, targets, found, at_, target, member⟩

/-- Nobody waits for itself. -/
theorem not_waits_self : ¬ queues.WaitsFor sid sid := by
  rintro (⟨different, -⟩ | behind)
  · exact different rfl
  · exact not_behind_self behind

/-! ## What is on a cycle -/

/-- The session runs a bulk mutation or a fan-out. -/
def Heavy (queues : Queues) (sid : Nat) : Prop :=
  queues.store.Performs sid fun operation =>
    (∃ recipientId, operation.BulkOf recipientId) ∨ operation.caller = none

/-- A session that waits and is not heavy has one row to visit, which an UPDATE or a DELETE visits,
and holds nothing. -/
theorem Queueing.light (queueing : Queueing initial queues) (waits : queues.WaitsFor sid other)
    (light : ¬ queues.Heavy sid) :
    queues.store.heldBy sid = [] ∧ ∃ session statement next snapshot targets id,
      queues.store.sessions sid = some session ∧
      session.stage = .scanning statement next snapshot targets ∧ statement.locksTuple = true ∧
      ∀ target ∈ targets, target.id = id := by
  obtain ⟨session, statement, next, snapshot, targets, found, at_, target, member⟩ :=
    queueing.waiter waits
  have single : ∀ recipientId, ¬ session.operation.BulkOf recipientId :=
    fun recipientId bulk => light ⟨session, found, Or.inl ⟨recipientId, bulk⟩⟩
  have locks : statement.locksTuple = true := by
    have stands := queueing.store.writing sid session found
    have own := stands.own at_
    cases statement with
    | insert ids sourceEventId recipientIds template payload link =>
      rcases stands.aimed _ next snapshot targets at_ target member with proposed | ⟨selected, -⟩
      · exact absurd ⟨session, found, Or.inr (Store.nobody_of_candidate own proposed)⟩ light
      · contradiction
    | _ => rfl
  obtain ⟨nothing, same⟩ := queueing.store.one_row found at_ member locks single
  exact ⟨nothing, session, statement, next, snapshot, targets, target.id, found, at_, locks, same⟩

/-- A wait for a mutation of one notification is a wait for whatever that one waits for. -/
theorem Queueing.passes (queueing : Queueing initial queues) (one two three : Nat)
    (first : queues.WaitsFor one two) (second : queues.WaitsFor two three)
    (light : ¬ queues.Heavy two) : queues.WaitsFor one three := by
  obtain ⟨nothing, session, statement, next, snapshot, targets, id, found, at_, locks, same⟩ :=
    queueing.light second light
  rcases first with ⟨-, -, -, -, -, -, -, -, -, -, write, held, -⟩ | behind
  · rw [nothing] at held
    contradiction
  · rcases second with ⟨different, session', statement', next', snapshot', targets', found', at_',
      target, member, write, held, stops⟩ | further
    · -- Both come to the row that the third one stands on.
      obtain rfl := Option.some.inj (found.symm.trans found')
      rw [at_] at at_'
      cases at_'
      obtain ⟨id', mine, theirs, asleep, also, -⟩ := behind
      obtain ⟨own, statement₁, next₁, snapshot₁, targets₁, isOwn, at₁, locks₁, target₁, member₁,
        same₁⟩ := queueing.orderly.comes one id' mine asleep
      obtain ⟨session₂, statement₂, next₂, snapshot₂, targets₂, found₂, at₂, -, target₂, member₂,
        same₂⟩ := queueing.orderly.comes two id' theirs also
      obtain rfl := Option.some.inj (found.symm.trans found₂)
      rw [at_] at at₂
      cases at₂
      have row : write.id = target₁.id := by
        have stands : write.id = target.id := by
          cases statement with
          | insert ids sourceEventId recipientIds template payload link => contradiction
          | _ => exact stops
        rw [stands, same target member, ← same target₂ member₂, same₂, same₁]
      have apart := queueing.store.apart one own statement₁ next₁ snapshot₁ targets₁ isOwn at₁
      have other : three ≠ one := by
        rintro rfl
        exact List.disjoint_of_nodup_append apart (List.mem_map_of_mem held)
          (row ▸ List.mem_map_of_mem member₁)
      refine Or.inl ⟨other, own, statement₁, next₁, snapshot₁, targets₁, isOwn, at₁, target₁,
        member₁, write, held, ?_⟩
      cases statement₁ with
      | insert ids sourceEventId recipientIds template payload link => contradiction
      | _ => exact row
    · exact Or.inr (behind.trans further)

/-- A deadlock of a mutation is among mutations of its own recipient. -/
theorem Queueing.among_mutations {recipientId : Uuid} (queueing : Queueing initial queues)
    (together : Together queues.WaitsFor sid other)
    (found : queues.store.sessions sid = some session)
    (caller : session.operation.caller = some recipientId) :
    ∃ session', queues.store.sessions other = some session' ∧
      session'.operation.caller = some recipientId := by
  refine spreads (fun sid => ∃ session, queues.store.sessions sid = some session ∧
    session.operation.caller = some recipientId) ?_ together.1 ⟨session, found, caller⟩
  rintro one two waits ⟨session, found, caller⟩
  exact queueing.mutation_waits waits found caller

/-- A deadlock of a fan-out is among fan-outs of its own source event. -/
theorem Queueing.among_fanOuts {nowV7 : Nat → Uuid} {command : DeliverNotification}
    (queueing : Queueing initial queues) (together : Together queues.WaitsFor sid other)
    (found : queues.store.sessions sid = some session)
    (operation : session.operation = .fanOut nowV7 command) :
    ∃ session' nowV7' command', queues.store.sessions other = some session' ∧
      session'.operation = .fanOut nowV7' command' ∧
        command'.sourceEventId = command.sourceEventId := by
  have reaches : ∃ session, queues.store.sessions other = some session ∧
      (session.operation.caller ≠ none ∨ ∃ nowV7' command',
        session.operation = .fanOut nowV7' command' ∧
          command'.sourceEventId = command.sourceEventId) := by
    refine spreads (fun sid => ∃ session, queues.store.sessions sid = some session ∧
      (session.operation.caller ≠ none ∨ ∃ nowV7' command',
        session.operation = .fanOut nowV7' command' ∧
          command'.sourceEventId = command.sourceEventId)) ?_ together.1
      ⟨session, found, Or.inr ⟨nowV7, command, operation, rfl⟩⟩
    rintro one two waits ⟨session, found, mutates | ⟨nowV7', command', isFanOut, source⟩⟩
    · obtain ⟨caller, is⟩ := Option.ne_none_iff_exists'.mp mutates
      obtain ⟨session', found', caller'⟩ := queueing.mutation_waits waits found is
      exact ⟨session', found', Or.inl (caller' ▸ Option.some_ne_none caller)⟩
    · obtain ⟨session', found', kind⟩ := queueing.store.fanOut_held_up
        (queueing.fanOut_waits waits found isFanOut) found isFanOut
      refine ⟨session', found', kind.imp_right ?_⟩
      rintro ⟨nowV7'', command'', is, source'⟩
      exact ⟨nowV7'', command'', is, source'.trans source⟩
  obtain ⟨session', found', mutates | ⟨nowV7', command', isFanOut, source⟩⟩ := reaches
  · -- What waits for the fan-out at some remove would be waited for by a mutation.
    obtain ⟨caller, is⟩ := Option.ne_none_iff_exists'.mp mutates
    obtain ⟨same, again, caller'⟩ := queueing.among_mutations together.symm found' is
    obtain rfl := Option.some.inj (found.symm.trans again)
    rw [operation] at caller'
    contradiction
  · exact ⟨session', nowV7', command', found', isFanOut, source⟩

/-- A mutation that is deadlocked without being a bulk one holds nothing and sleeps in a queue. -/
theorem Queueing.asleep_of_light (queueing : Queueing initial queues)
    (deadlocked : Deadlocked queues.WaitsFor sid) (light : ¬ queues.Heavy sid) :
    queues.store.heldBy sid = [] ∧ queues.asleep sid ≠ none := by
  obtain ⟨waited, waits⟩ := deadlocked.waits_for
  obtain ⟨nothing, -⟩ := queueing.light waits light
  refine ⟨nothing, ?_⟩
  obtain ⟨waiter, -, held | behind⟩ := deadlocked.waited_for
  · obtain ⟨-, -, -, -, -, -, -, -, -, -, write, held, -⟩ := held
    rw [nothing] at held
    contradiction
  · obtain ⟨id, mine, theirs, -, asleep, -⟩ := behind
    rw [asleep]
    exact Option.some_ne_none _

/-- What a cycle of mutations of one recipient is made of: each is a bulk mutation, or sleeps in a
queue and holds nothing, and at least two are bulk mutations. -/
structure MutationCycle (queues : Queues) (sid : Nat) (recipientId : Uuid) : Prop where
  /-- Everything on the cycle is a mutation of the recipient. -/
  mutations : ∀ other, Together queues.WaitsFor sid other →
    queues.store.Performs other (Operation.MutationOf recipientId)
  /-- A mutation of one notification is on it only where it sleeps in a queue. -/
  queued : ∀ other, Together queues.WaitsFor sid other →
    queues.store.Performs other (Operation.BulkOf recipientId) ∨
      queues.store.heldBy other = [] ∧ queues.asleep other ≠ none
  /-- Two bulk mutations are on it. -/
  bulk : ∃ one other, one ≠ other ∧ Together queues.WaitsFor sid one ∧
    Together queues.WaitsFor sid other ∧
    queues.store.Performs one (Operation.BulkOf recipientId) ∧
    queues.store.Performs other (Operation.BulkOf recipientId)

/-- A heavy session that acts for the recipient runs a bulk mutation of theirs. -/
theorem bulk_of_heavy {recipientId : Uuid} (found : queues.store.sessions sid = some session)
    (caller : session.operation.caller = some recipientId) (heavy : queues.Heavy sid) :
    queues.store.Performs sid (Operation.BulkOf recipientId) := by
  obtain ⟨session', found', ⟨other, bulk⟩ | nobody⟩ := heavy
  · obtain rfl := Option.some.inj (found.symm.trans found')
    refine ⟨session, found, ?_⟩
    have same : other = recipientId := by
      cases operation : session.operation with
      | markAllAsRead utcNow user =>
        rw [operation] at bulk caller
        have user_ : user = other := bulk
        exact user_.symm.trans (Option.some.inj caller)
      | deleteNotifications user ids =>
        rw [operation] at bulk caller
        exact bulk.1.symm.trans (Option.some.inj caller)
      | _ =>
        rw [operation] at bulk
        exact bulk.elim
    exact same ▸ bulk
  · obtain rfl := Option.some.inj (found.symm.trans found')
    rw [nobody] at caller
    contradiction

/-- What is on a cycle is all of one recipient, or all of one source event. -/
theorem Queueing.cycle_kind (queueing : Queueing initial queues)
    (deadlocked : Deadlocked queues.WaitsFor sid) :
    (∃ recipientId, queues.MutationCycle sid recipientId) ∨
    ∃ sourceEventId, ∀ other, Together queues.WaitsFor sid other →
      queues.store.Performs other (Operation.FansOut sourceEventId) := by
  obtain ⟨waited, waits⟩ := deadlocked.waits_for
  obtain ⟨session, statement, next, snapshot, targets, found, at_, -⟩ := queueing.waiter waits
  cases caller : session.operation.caller with
  | some recipientId =>
    left
    refine ⟨recipientId, ?_, ?_, ?_⟩
    · intro other together
      obtain ⟨session', found', caller'⟩ := queueing.among_mutations together found caller
      obtain ⟨waited', waits'⟩ := together.deadlocked.waits_for
      obtain ⟨again, statement', next', snapshot', targets', is, at_', -⟩ := queueing.waiter waits'
      obtain rfl := Option.some.inj (found'.symm.trans is)
      have own := (queueing.store.writing other session' found').own at_'
      exact ⟨session', found', caller', own ▸ Option.some_ne_none statement'⟩
    · intro other together
      by_cases heavy : queues.Heavy other
      · obtain ⟨session', found', caller'⟩ := queueing.among_mutations together found caller
        exact Or.inl (bulk_of_heavy found' caller' heavy)
      · exact Or.inr (queueing.asleep_of_light together.deadlocked heavy)
    · obtain ⟨one, other, different, weight, weight', together, together'⟩ :=
        deadlocked.two_heavy queues.Heavy queueing.passes fun _ => not_waits_self
      obtain ⟨session₁, found₁, caller₁⟩ := queueing.among_mutations together found caller
      obtain ⟨session₂, found₂, caller₂⟩ := queueing.among_mutations together' found caller
      exact ⟨one, other, different, together, together', bulk_of_heavy found₁ caller₁ weight,
        bulk_of_heavy found₂ caller₂ weight'⟩
  | none =>
    right
    obtain ⟨nowV7, command, operation⟩ := Store.fanOut_of_caller caller
    refine ⟨command.sourceEventId, fun other together => ?_⟩
    obtain ⟨session', nowV7', command', found', operation', source⟩ :=
      queueing.among_fanOuts together found operation
    obtain ⟨after, onward⟩ := together.deadlocked.waits_for
    obtain ⟨before, inside, into⟩ := together.deadlocked.waited_for
    obtain ⟨waiter, nowV7₁, command₁, isWaiter, fans, -⟩ :=
      queueing.among_fanOuts (together.trans inside) found operation
    exact ⟨session', found', source ▸ queueing.store.fans
      (queueing.fanOut_waits onward found' operation') (queueing.fanOut_waits into isWaiter fans)
      found' operation'⟩

/-- Whoever is waited for is open. -/
theorem Queueing.opened (queueing : Queueing initial queues) (waits : queues.WaitsFor sid other) :
    queues.store.sessions other ≠ none := by
  rcases waits with ⟨-, -, -, -, -, -, -, -, -, -, write, held, -⟩ |
    ⟨id, mine, theirs, -, asleep, -⟩
  · exact queueing.store.sound.consistent.owned _ (Store.mem_heldBy.mp held)
  · obtain ⟨session, -, -, -, -, found, -⟩ := queueing.orderly.comes other id theirs asleep
    rw [found]
    exact Option.some_ne_none session

end Queues

/-- What a deadlock is made of, in every state of every run whose minted identifiers are new, with
the queues of those that sleep at a row. The transactions that wait for each other in a cycle are
all mutations of one recipient, or all fan-outs of one source event to several recipients. Of the
mutations at least two are bulk ones, and one that is not holds nothing and sleeps in a queue. No
query and no fan-out to one recipient is ever on a cycle, and none has two recipients or two source
events on it. -/
theorem deadlocks_stay_within (table : Notifications) (queues : Queues)
    (reached : Reaches Queues.step Queues.Coins (Queues.start table.rows) queues) (sid : Nat)
    (deadlocked : Deadlocked queues.WaitsFor sid) :
    (∃ recipientId, queues.MutationCycle sid recipientId) ∨
    ∃ sourceEventId, ∀ other, Together queues.WaitsFor sid other →
      queues.store.Performs other (Operation.FansOut sourceEventId) :=
  (Queues.queueing_of_reaches reached).cycle_kind deadlocked

/-- Two unread notifications of one recipient. -/
def samplePair : Notifications := ⟨[sampleRow 2 7, sampleRow 2 8], ⟨by decide, by decide⟩⟩

/-- The recipient deletes both, marks the first as read and marks all as read, in three requests at
once. The delete has the first row when the mark comes to it and sleeps; then the third, which has
the second row, comes to the first one and sleeps behind the mark; then the delete comes to the
second row. -/
def sampleCrossing : List Queues.Action :=
  [.act (.begin 0 (.deleteNotifications (sampleId 2) [sampleId 7, sampleId 8]) ⟨0⟩),
    .act (.begin 1 (.markAsRead (sampleId 2) (sampleId 7)) ⟨0⟩),
    .act (.begin 2 (.markAllAsRead ⟨0⟩ (sampleId 2)) ⟨0⟩),
    .act (.advance 0), .act (.advance 1), .act (.advance 2),
    .act (.advance 0), .act (.advance 1), .act (.advance 2),
    .act (.visit 0 0), .sleep 1 0, .act (.visit 2 1), .sleep 2 0, .sleep 0 0]

/-- The step opens no fan-out. -/
def fansNothingOut (_ : Queues) : Queues.Action → Bool
  | .act (.begin _ (.fanOut ..) _) => false
  | _ => true

/-- The queues once all three sleep. -/
def sampleCrossed : Queues :=
  (play (fun queues action => if fansNothingOut queues action then queues.step action else none)
    (Queues.start samplePair.rows) sampleCrossing).get (by decide)

/-- A step that begins no fan-out mints nothing. -/
theorem coins_of_fansNothingOut (queues : Queues) (action : Queues.Action)
    (checked : fansNothingOut queues action = true) : queues.Coins action := by
  cases action with
  | act action =>
    cases action with
    | begin sid operation now =>
      cases operation with
      | fanOut nowV7 command => contradiction
      | _ => exact ⟨List.nodup_nil, fun id minted => absurd minted List.not_mem_nil,
          fun _ _ _ id minted => absurd minted List.not_mem_nil⟩
    | _ => trivial
  | _ => trivial

/-- The delete waits for the third, that one behind the mark, and the mark for the delete: all are
mutations of the recipient's. -/
theorem deadlocks_stay_within_sample :
    (∃ recipientId, sampleCrossed.MutationCycle 1 recipientId) ∨
    ∃ sourceEventId, ∀ other, Together sampleCrossed.WaitsFor 1 other →
      sampleCrossed.store.Performs other (Operation.FansOut sourceEventId) := by
  have reached : Reaches Queues.step Queues.Coins (Queues.start samplePair.rows) sampleCrossed :=
    ⟨_, steps_of_checked_play (Option.some_get _).symm coins_of_fansNothingOut⟩
  have mark : sampleCrossed.WaitsFor 1 0 := Or.inl
    ⟨by decide, _, _, _, _, _, rfl, rfl, _, List.mem_cons_self, _, List.mem_cons_self, rfl⟩
  have delete : sampleCrossed.WaitsFor 0 2 := Or.inl
    ⟨by decide, _, _, _, _, _, rfl, rfl, _, List.mem_cons_self, _, List.mem_cons_self, rfl⟩
  have third : sampleCrossed.WaitsFor 2 1 := Or.inr ⟨sampleId 7, 1, 0, rfl, rfl, by decide⟩
  exact deadlocks_stay_within samplePair sampleCrossed reached 1
    (((Relation.TransGen.single mark).tail delete).tail third)

end SvcNotifier
