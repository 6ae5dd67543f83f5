import Mathlib.Data.List.Basic

/-!
# A broadcast channel over a bounded ring

Everything sent on the channel is one list, and a receiver is a position in it. The ring keeps
the last `capacity` values: a receiver whose next value has been overwritten is told how many it
has lost, and goes on at the oldest one kept. `RingBuffer` is what the channel keeps in memory, and
`receive` is what a receiver of it gets, told from everything that was sent.
-/

namespace Library

variable {α : Type}

/-- What a receiver gets. -/
inductive Received (α : Type) where
  /-- The next value. -/
  | value (value : α)
  /-- Its next values have been overwritten, this many. -/
  | lagged (lost : Nat)
  /-- Nothing has been sent since. -/
  | pending

/-- Receive at a position of a channel. -/
def receive (capacity : Nat) (sent : List α) (next : Nat) : Received α :=
  if next + capacity < sent.length then .lagged (sent.length - capacity - next)
  else match sent[next]? with
    | some value => .value value
    | none => .pending

variable {capacity next : Nat} {sent : List α}

/-- A value received is the next one, and still in the ring. -/
theorem receive_value {value : α} (received : receive capacity sent next = .value value) :
    sent[next]? = some value ∧ sent.length ≤ next + capacity := by
  unfold receive at received
  by_cases behind : next + capacity < sent.length
  · rw [if_pos behind] at received
    contradiction
  · rw [if_neg behind] at received
    cases found : sent[next]? with
    | none =>
      rw [found] at received
      contradiction
    | some first =>
      rw [found] at received
      injection received with same
      exact ⟨congrArg some same, by omega⟩

/-- A receiver waits only when it has received everything. -/
theorem receive_pending (received : receive capacity sent next = .pending) :
    sent.length ≤ next := by
  unfold receive at received
  by_cases behind : next + capacity < sent.length
  · rw [if_pos behind] at received
    contradiction
  · rw [if_neg behind] at received
    cases found : sent[next]? with
    | none => exact List.getElem?_eq_none_iff.mp found
    | some first =>
      rw [found] at received
      contradiction

/-- What a receiver gets depends only on what it has not received. -/
theorem receive_drop : receive capacity sent next = receive capacity (sent.drop next) 0 := by
  unfold receive
  rw [List.length_drop, List.getElem?_drop, Nat.add_zero]
  by_cases behind : next + capacity < sent.length
  · have still : 0 + capacity < sent.length - next := by omega
    have lost : sent.length - capacity - next = sent.length - next - capacity - 0 := by omega
    rw [if_pos behind, if_pos still, lost]
  · have still : ¬ 0 + capacity < sent.length - next := by omega
    rw [if_neg behind, if_neg still]

/-- The ring: how much has been sent on it, and the last of that. -/
structure RingBuffer (α : Type) (capacity : Nat) where
  /-- How many values have been sent. -/
  sent : Nat
  /-- The values still kept, the oldest first. -/
  kept : List α
  /-- It keeps as many as it can. -/
  full : kept.length = min sent capacity

namespace RingBuffer

variable {ring : RingBuffer α capacity}

/-- A ring on which nothing has been sent. -/
def empty : RingBuffer α capacity := ⟨0, [], by simp⟩

/-- Send a value; the oldest one kept makes room for it. -/
def send (ring : RingBuffer α capacity) (value : α) : RingBuffer α capacity where
  sent := ring.sent + 1
  kept := (ring.kept ++ [value]).drop (ring.kept.length + 1 - capacity)
  full := by
    have full := ring.full
    rw [List.length_drop, List.length_append, List.length_singleton]
    omega

/-- The position of the oldest value kept. -/
def oldest (ring : RingBuffer α capacity) : Nat := ring.sent - ring.kept.length

/-- The value at a position was sent and is kept no more. -/
def Overwritten (ring : RingBuffer α capacity) (position : Nat) : Prop := position < ring.oldest

/-- What a receiver gets, and where it then is: one that has lost values goes on at the oldest
one kept. -/
def recv (ring : RingBuffer α capacity) (next : Nat) : Received α × Nat :=
  if next < ring.oldest then (.lagged (ring.oldest - next), ring.oldest)
  else match ring.kept[next - ring.oldest]? with
    | some value => (.value value, next + 1)
    | none => (.pending, next)

/-- These values, and no others, have been sent on the ring. -/
structure Holds (ring : RingBuffer α capacity) (sent : List α) : Prop where
  /-- So many values have been sent. -/
  length : ring.sent = sent.length
  /-- The last of them are kept. -/
  kept : ring.kept = sent.drop (sent.length - capacity)

/-- Nothing has been sent on an empty ring. -/
theorem empty_holds : (empty : RingBuffer α capacity).Holds [] := ⟨rfl, by simp [empty]⟩

/-- One more value is sent. -/
theorem Holds.send (holds : ring.Holds sent) (value : α) :
    (ring.send value).Holds (sent ++ [value]) := by
  have full := ring.full
  have length := holds.length
  refine ⟨?_, ?_⟩
  · show ring.sent + 1 = _
    rw [length, List.length_append, List.length_singleton]
  · have less : sent.length - capacity ≤ sent.length := Nat.sub_le ..
    have same : sent.length - capacity + (ring.kept.length + 1 - capacity) =
        (sent ++ [value]).length - capacity := by
      rw [List.length_append, List.length_singleton]
      omega
    show (ring.kept ++ [value]).drop (ring.kept.length + 1 - capacity) = _
    rw [← same, ← List.drop_drop, List.drop_append_of_le_length less, ← holds.kept]

/-- Where the kept values begin. -/
theorem Holds.oldest (holds : ring.Holds sent) : ring.oldest = sent.length - capacity := by
  have full := ring.full
  have length := holds.length
  unfold RingBuffer.oldest
  omega

/-- A receiver of the ring gets what is told from all that was sent. -/
theorem Holds.recv (holds : ring.Holds sent) (next : Nat) :
    (ring.recv next).1 = receive capacity sent next := by
  have oldest := holds.oldest
  unfold RingBuffer.recv receive
  by_cases behind : next + capacity < sent.length
  · have lost : next < ring.oldest := by omega
    have same : ring.oldest - next = sent.length - capacity - next := by omega
    rw [if_pos lost, if_pos behind, same]
  · have here : ¬ next < ring.oldest := by omega
    have position : sent.length - capacity + (next - ring.oldest) = next := by omega
    rw [if_neg here, if_neg behind, holds.kept, List.getElem?_drop, position]
    cases sent[next]? with
    | none => rfl
    | some value => rfl

/-- A receiver that is given a value is at the next one then. -/
theorem recv_value {value : α} (given : (ring.recv next).1 = .value value) :
    (ring.recv next).2 = next + 1 := by
  unfold recv at given ⊢
  by_cases behind : next < ring.oldest
  · rw [if_pos behind] at given
    contradiction
  · rw [if_neg behind] at given ⊢
    cases found : ring.kept[next - ring.oldest]? with
    | none =>
      rw [found] at given
      contradiction
    | some other => rfl

end RingBuffer

end Library
