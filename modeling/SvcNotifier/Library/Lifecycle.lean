import Mathlib.Data.List.Basic
import Mathlib.Data.List.Nodup
import Mathlib.Tactic.Common

/-!
# Life cycles told by a journal of facts

A journal is a list of facts, each a kind and the entity it is about. A life cycle is a
partial transition function on the states of one entity. A journal is legal when the kinds it
records about every entity run through the life cycle. Entities are independent: a batch that
names no entity twice moves each entity it names by one step and leaves the others alone, and
`Tells.extend` derives from that what a journal tells after the batch.
-/

namespace Library

variable {ι κ S : Type} [DecidableEq ι]

/-- The kinds a journal records about one entity, oldest first. -/
def about (entity : ι) (journal : List (κ × ι)) : List κ :=
  (journal.filter fun fact => fact.2 = entity).map Prod.fst

@[simp] theorem about_append (entity : ι) (first second : List (κ × ι)) :
    about entity (first ++ second) = about entity first ++ about entity second := by
  simp [about]

/-- A fact recorded about an entity is one of its kinds. -/
theorem mem_about {entity : ι} {kind : κ} {journal : List (κ × ι)} :
    kind ∈ about entity journal ↔ (kind, entity) ∈ journal := by
  simp [about]

/-- Nothing is recorded about an entity the journal does not name. -/
theorem about_eq_nil {entity : ι} {journal : List (κ × ι)}
    (unnamed : entity ∉ journal.map Prod.snd) : about entity journal = [] := by
  simp only [about, List.map_eq_nil_iff, List.filter_eq_nil_iff, decide_eq_true_eq]
  intro fact member same
  exact unnamed (same ▸ List.mem_map_of_mem member)

/-- A batch that names no entity twice records one kind about each entity it names. -/
theorem about_eq_singleton {entity : ι} {kind : κ} {batch : List (κ × ι)}
    (distinct : (batch.map Prod.snd).Nodup) (member : (kind, entity) ∈ batch) :
    about entity batch = [kind] := by
  induction batch with
  | nil => cases member
  | cons fact batch ih =>
    rw [List.map_cons, List.nodup_cons] at distinct
    rcases List.mem_cons.mp member with rfl | later
    · have rest := about_eq_nil distinct.1
      simp only [about] at rest ⊢
      simp [rest]
    · have other : fact.2 ≠ entity := fun same =>
        distinct.1 (same ▸ List.mem_map_of_mem later)
      have rest := ih distinct.2 later
      simp only [about] at rest ⊢
      simp [other, rest]

/-- The states of one entity and the kinds of fact that move it. -/
structure Lifecycle (S κ : Type) where
  /-- The state of an entity nothing has happened to. -/
  start : S
  /-- The state after a fact, when the fact may happen. -/
  next : S → κ → Option S

namespace Lifecycle

variable (cycle : Lifecycle S κ)

/-- The state after a list of kinds, when they may happen in this order. -/
def after (kinds : List κ) : Option S := kinds.foldlM cycle.next cycle.start

/-- One more kind moves the state by one step. -/
theorem after_snoc (kinds : List κ) (kind : κ) :
    cycle.after (kinds ++ [kind]) = (cycle.after kinds).bind (cycle.next · kind) := by
  simp [after, List.foldlM_append]

/-- The journal tells that each entity is in the given state. -/
def Tells (journal : List (κ × ι)) (state : ι → S) : Prop :=
  ∀ entity, cycle.after (about entity journal) = some (state entity)

variable {cycle}

/-- Nothing has happened to any entity. -/
theorem Tells.start : cycle.Tells ([] : List (κ × ι)) fun _ => cycle.start := fun _ => rfl

/-- A batch that names no entity twice, each in a step its state allows, extends what the
journal tells. -/
theorem Tells.extend {journal batch : List (κ × ι)} {state later : ι → S}
    (tells : cycle.Tells journal state) (distinct : (batch.map Prod.snd).Nodup)
    (moved : ∀ kind entity, (kind, entity) ∈ batch →
      cycle.next (state entity) kind = some (later entity))
    (kept : ∀ entity, entity ∉ batch.map Prod.snd → later entity = state entity) :
    cycle.Tells (journal ++ batch) later := by
  intro entity
  by_cases named : entity ∈ batch.map Prod.snd
  · obtain ⟨⟨kind, _⟩, member, rfl⟩ := List.mem_map.mp named
    rw [about_append, about_eq_singleton distinct member, after_snoc, tells]
    exact moved _ _ member
  · rw [about_append, about_eq_nil named, List.append_nil, tells, kept entity named]

/-! ## Following an entity from any state -/

variable (cycle)

/-- The state a list of kinds leads to from a state, when they may happen in this order. -/
def follow (state : S) (kinds : List κ) : Option S := kinds.foldlM cycle.next state

/-- The states gone through on the way, both ends included. -/
def trail (state : S) : List κ → List S
  | [] => [state]
  | kind :: kinds => state :: match cycle.next state kind with
    | some later => trail later kinds
    | none => []

/-- One kind moves the state by one step. -/
theorem follow_cons (state : S) (kind : κ) (kinds : List κ) :
    cycle.follow state (kind :: kinds) = (cycle.next state kind).bind (cycle.follow · kinds) := rfl

/-- Following one list and then another. -/
theorem follow_append (state : S) (first second : List κ) :
    cycle.follow state (first ++ second) =
      (cycle.follow state first).bind (cycle.follow · second) := by
  rw [follow, List.foldlM_append]
  rfl

/-- The state a list leads to is on its trail. -/
theorem mem_trail_of_follow {state later : S} {kinds : List κ}
    (followed : cycle.follow state kinds = some later) : later ∈ cycle.trail state kinds := by
  induction kinds generalizing state with
  | nil =>
    obtain rfl := Option.some.inj followed
    exact List.mem_singleton_self _
  | cons kind kinds ih =>
    rw [follow_cons] at followed
    obtain ⟨middle, moved, rest⟩ := Option.bind_eq_some_iff.mp followed
    rw [trail, moved]
    exact List.mem_cons_of_mem _ (ih rest)

/-- What has been gone through stays gone through. -/
theorem trail_grows (state : S) (first second : List κ) :
    cycle.trail state first <+: cycle.trail state (first ++ second) := by
  induction first generalizing state with
  | nil =>
    cases second with
    | nil => exact List.prefix_rfl
    | cons kind second => exact (List.prefix_append [state] _)
  | cons kind first ih =>
    rw [List.cons_append, trail, trail]
    apply List.cons_prefix_cons.mpr
    constructor
    · rfl
    · cases cycle.next state kind with
      | some later => exact ih later
      | none => exact List.nil_prefix

end Lifecycle

end Library
