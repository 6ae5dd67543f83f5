import SvcNotifier.Writers

/-!
# The queue for a row

What PostgreSQL does where a row is held. An UPDATE or a DELETE that finds it held takes the row's
tuple lock and sleeps until the holder has ended; whoever comes later sleeps until the tuple lock
is free. So the sessions that sleep at a row wait for those that came to it before them. An INSERT
takes no tuple lock and waits for the holder alone. The database moves as it does without the
queues. A sleeping session may be woken at any time and come to the row again: so it does when the
row has a new version, which has a tuple lock of its own.
-/

namespace SvcNotifier

open Library Program

/-- The statement takes the tuple lock of a row it waits for. -/
def Statement.locksTuple : Statement → Bool
  | .insert .. => false
  | _ => true

/-- The database with the sessions that sleep. -/
structure Queues where
  /-- The database. -/
  store : Store
  /-- The row that a session sleeps at, and how many had gone to sleep before it. -/
  asleep : Nat → Option (Uuid × Nat)
  /-- How many have gone to sleep. -/
  arrivals : Nat

namespace Queues

/-- A database that has just started, where nobody sleeps. -/
def start (rows : List Row) : Queues :=
  { store := .start rows, asleep := fun _ => none, arrivals := 0 }

/-- What happens next. -/
inductive Action where
  /-- A session takes a step in the database, woken if it slept. -/
  | act (action : Store.Action)
  /-- A session that comes to one of its rows finds it held, and goes to sleep. -/
  | sleep (sid index : Nat)
  /-- A session is woken. -/
  | wake (sid : Nat)

/-- One step. -/
def step (queues : Queues) : Action → Option Queues
  | .act action => match queues.store.step action with
    | none => none
    | some store => some { queues with
        store := store, asleep := Function.update queues.asleep action.sid none }
  | .sleep sid index => match queues.store.sessions sid with
    | none => none
    | some session => match session.stage with
      | .scanning statement _ _ targets => match targets[index]? with
        | none => none
        | some target =>
          if statement.locksTuple && queues.store.blocked sid target &&
              (queues.asleep sid).isNone then
            some { queues with
              asleep := Function.update queues.asleep sid (some (target.id, queues.arrivals))
              arrivals := queues.arrivals + 1 }
          else none
      | _ => none
  | .wake sid => some { queues with asleep := Function.update queues.asleep sid none }

/-- A session sleeps at a row that the other came to before it, which sleeps there as well. -/
def Behind (queues : Queues) (sid other : Nat) : Prop :=
  ∃ id mine theirs, queues.asleep sid = some (id, mine) ∧ queues.asleep other = some (id, theirs) ∧
    theirs < mine

variable {queues after : Queues} {sid other : Nat}

/-- Nobody sleeps behind itself. -/
theorem not_behind_self : ¬ queues.Behind sid sid := by
  rintro ⟨id, mine, theirs, asleep, also, before⟩
  rw [asleep] at also
  obtain ⟨-, rfl⟩ := Prod.mk.inj (Option.some.inj also)
  exact Nat.lt_irrefl _ before

/-- Whoever sleeps behind one that sleeps behind another sleeps behind both. -/
theorem Behind.trans {third : Nat} (first : queues.Behind sid other)
    (second : queues.Behind other third) : queues.Behind sid third := by
  obtain ⟨id, mine, theirs, asleep, also, before⟩ := first
  obtain ⟨id', mine', theirs', asleep', also', before'⟩ := second
  rw [also] at asleep'
  obtain ⟨rfl, rfl⟩ := Prod.mk.inj (Option.some.inj asleep')
  exact ⟨id, mine, theirs', asleep, also', Nat.lt_trans before' before⟩

/-! ## What a step does -/

/-- A step of the database. -/
theorem step_act {action : Store.Action} (stepped : queues.step (.act action) = some after) :
    ∃ store, queues.store.step action = some store ∧ after = { queues with
      store := store, asleep := Function.update queues.asleep action.sid none } := by
  simp only [step] at stepped
  split at stepped
  case h_1 => contradiction
  case h_2 store moved => exact ⟨store, moved, (Option.some.inj stepped).symm⟩

/-- A session goes to sleep at a row it has yet to visit. -/
theorem step_sleep {index : Nat} (stepped : queues.step (.sleep sid index) = some after) :
    ∃ session statement next snapshot targets target,
      queues.store.sessions sid = some session ∧
      session.stage = .scanning statement next snapshot targets ∧ target ∈ targets ∧
      statement.locksTuple = true ∧ after = { queues with
        asleep := Function.update queues.asleep sid (some (target.id, queues.arrivals))
        arrivals := queues.arrivals + 1 } := by
  simp only [step] at stepped
  split at stepped
  case h_1 => contradiction
  case h_2 session found =>
    split at stepped
    case h_2 => contradiction
    case h_1 statement next snapshot targets at_ =>
      split at stepped
      case h_1 => contradiction
      case h_2 target aimed =>
        split at stepped
        case isFalse => contradiction
        case isTrue held =>
          simp only [Bool.and_eq_true] at held
          exact ⟨session, statement, next, snapshot, targets, target, found, at_,
            List.mem_of_getElem? aimed, held.1.1, (Option.some.inj stepped).symm⟩

/-! ## Who sleeps -/

/-- The session has an UPDATE or a DELETE under way that is yet to visit the row. -/
def Comes (queues : Queues) (sid : Nat) (id : Uuid) : Prop :=
  ∃ session statement next snapshot targets, queues.store.sessions sid = some session ∧
    session.stage = .scanning statement next snapshot targets ∧ statement.locksTuple = true ∧
    ∃ target ∈ targets, target.id = id

/-- Who sleeps has come to the row, and there are finitely many who do. -/
structure Orderly (queues : Queues) : Prop where
  /-- A session sleeps at a row that its statement is yet to visit. -/
  comes : ∀ sid id turn, queues.asleep sid = some (id, turn) → queues.Comes sid id
  /-- Finitely many sessions sleep. -/
  few : {sid | queues.asleep sid ≠ none}.Finite

/-- Nobody sleeps at the start. -/
theorem start_orderly (rows : List Row) : (start rows).Orderly := by
  refine ⟨by intro sid id turn asleep; contradiction, ?_⟩
  have nobody : {sid | (start rows).asleep sid ≠ none} = ∅ :=
    Set.eq_empty_iff_forall_notMem.mpr fun sid some_ => some_ rfl
  rw [nobody]
  exact Set.finite_empty

/-- Who sleeps after one session was told to wake or to sleep. -/
theorem asleep_update (asleep : Nat → Option (Uuid × Nat)) (place : Option (Uuid × Nat))
    (few : {sid | asleep sid ≠ none}.Finite) :
    {other | Function.update asleep sid place other ≠ none}.Finite := by
  apply (few.insert sid).subset
  intro other some_
  by_cases same : other = sid
  · exact Set.mem_insert_iff.mpr (Or.inl same)
  · have kept : asleep other ≠ none := by
      have now : Function.update asleep sid place other ≠ none := some_
      rwa [Function.update_of_ne same] at now
    exact Set.mem_insert_of_mem _ kept

/-- Whoever sleeps after one session was told to wake or to sleep is that session, or slept
before. -/
theorem asleep_cases {asleep : Nat → Option (Uuid × Nat)} {place : Option (Uuid × Nat)}
    {at_ : Uuid × Nat} (later : Function.update asleep sid place other = some at_) :
    (other = sid ∧ place = some at_) ∨ (other ≠ sid ∧ asleep other = some at_) := by
  by_cases same : other = sid
  · subst same
    rw [Function.update_self] at later
    exact Or.inl ⟨rfl, later⟩
  · rw [Function.update_of_ne same] at later
    exact Or.inr ⟨same, later⟩

/-- A step leaves the others asleep at rows they are yet to visit. -/
theorem orderly_step {action : Action} (orderly : queues.Orderly)
    (stepped : queues.step action = some after) : after.Orderly := by
  cases action with
  | act action =>
    obtain ⟨store, moved, rfl⟩ := step_act stepped
    refine ⟨?_, asleep_update _ none orderly.few⟩
    intro other id turn asleep
    rcases asleep_cases asleep with ⟨-, woken⟩ | ⟨apart, slept⟩
    · contradiction
    · obtain ⟨session, statement, next, snapshot, targets, found, rest⟩ :=
        orderly.comes other id turn slept
      have kept := (Store.others_of_step moved other apart).1
      exact ⟨session, statement, next, snapshot, targets, kept.trans found, rest⟩
  | sleep sid index =>
    obtain ⟨session, statement, next, snapshot, targets, target, found, at_, member, locks, rfl⟩ :=
      step_sleep stepped
    refine ⟨?_, asleep_update _ _ orderly.few⟩
    intro other id turn asleep
    rcases asleep_cases asleep with ⟨rfl, here⟩ | ⟨-, slept⟩
    · obtain ⟨rfl, -⟩ := Prod.mk.inj (Option.some.inj here)
      exact ⟨session, statement, next, snapshot, targets, found, at_, locks, target, member, rfl⟩
    · exact orderly.comes other id turn slept
  | wake sid =>
    obtain rfl := Option.some.inj stepped
    refine ⟨?_, asleep_update _ none orderly.few⟩
    intro other id turn asleep
    rcases asleep_cases asleep with ⟨-, woken⟩ | ⟨-, slept⟩
    · contradiction
    · exact orderly.comes other id turn slept

/-- A step is one of the database, or leaves it alone. -/
theorem store_of_step {action : Action} (stepped : queues.step action = some after) :
    after.store = queues.store ∨
      ∃ moved, action = .act moved ∧ queues.store.step moved = some after.store := by
  cases action with
  | act moved =>
    obtain ⟨store, stepped', rfl⟩ := step_act stepped
    exact Or.inr ⟨moved, rfl, stepped'⟩
  | sleep sid index =>
    obtain ⟨-, -, -, -, -, -, -, -, -, -, rfl⟩ := step_sleep stepped
    exact Or.inl rfl
  | wake sid =>
    obtain rfl := Option.some.inj stepped
    exact Or.inl rfl

end Queues

end SvcNotifier
