import Mathlib.Data.List.Basic

/-!
# Programs over typed calls, and rules of pre- and postconditions for them

A program is a tree of calls: each call names what it asks for, and the program goes on with
the reply. Nothing here says what a call does. A contract gives each call a precondition on
the state and a relation between the state before, the reply and the state after; `Meets`
is the weakest precondition of a program under a contract, with one postcondition for the runs
that return and one for those that fail, and `Ensures` leaves the second out. Any semantics
whose calls meet the contract may be reasoned about with these rules, one at a time or
interleaved with others, since a state only changes where a call is made.
-/

namespace Library

/-- A program over calls `κ`, whose replies are typed by the call, with failures in `ε`. -/
inductive Program (κ : Type) (ρ : κ → Type) (ε α : Type) where
  /-- The program has returned. -/
  | done (value : α)
  /-- The program has failed. -/
  | fail (error : ε)
  /-- Make one call and go on with its reply. -/
  | call (request : κ) (next : ρ request → Program κ ρ ε α)

namespace Program

variable {κ : Type} {ρ : κ → Type} {ε α β τ : Type}

/-- Run a program and give its value to the next one. -/
def bind (program : Program κ ρ ε α) (next : α → Program κ ρ ε β) : Program κ ρ ε β :=
  match program with
  | .done value => next value
  | .fail error => .fail error
  | .call request rest => .call request fun reply => (rest reply).bind next

instance : Monad (Program κ ρ ε) where
  pure := .done
  bind := bind

/-- Make one call and return its reply. -/
def perform (request : κ) : Program κ ρ ε (ρ request) := .call request .done

@[simp] theorem done_bind (value : α) (next : α → Program κ ρ ε β) :
    (Program.done value >>= next) = next value := rfl

@[simp] theorem pure_bind (value : α) (next : α → Program κ ρ ε β) :
    ((pure value : Program κ ρ ε α) >>= next) = next value := rfl

@[simp] theorem fail_bind (error : ε) (next : α → Program κ ρ ε β) :
    ((Program.fail error : Program κ ρ ε α) >>= next) = .fail error := rfl

@[simp] theorem call_bind (request : κ) (rest : ρ request → Program κ ρ ε α)
    (next : α → Program κ ρ ε β) :
    (Program.call request rest >>= next) = .call request fun reply => rest reply >>= next := rfl

@[simp] theorem perform_bind (request : κ) (next : ρ request → Program κ ρ ε β) :
    ((perform request : Program κ ρ ε _) >>= next) = .call request next := rfl

/-- What the calls of a program ask of a state and do to it. -/
structure Contract (κ : Type) (ρ : κ → Type) (τ : Type) where
  /-- What must hold of the state when the call is made. -/
  requires : κ → τ → Prop
  /-- The replies and later states the call may lead to. -/
  allows : (request : κ) → τ → ρ request → τ → Prop

/-- Every call is made in a state that meets its precondition, every run that returns ends in a
value and a state that meet `post`, and every run that fails in an error and a state that meet
`failed`. -/
def Meets (contract : Contract κ ρ τ) (post : α → τ → Prop) (failed : ε → τ → Prop) :
    Program κ ρ ε α → τ → Prop
  | .done value, state => post value state
  | .fail error, state => failed error state
  | .call request next, state =>
    contract.requires request state ∧
      ∀ reply after, contract.allows request state reply after →
        Meets contract post failed (next reply) after

/-- `Meets` where a failed run promises nothing. -/
def Ensures (contract : Contract κ ρ τ) (post : α → τ → Prop) (program : Program κ ρ ε α)
    (state : τ) : Prop :=
  Meets contract post (fun _ _ => True) program state

variable {contract : Contract κ ρ τ} {post weaker : α → τ → Prop} {failed other : ε → τ → Prop}
  {program : Program κ ρ ε α} {state : τ}

@[simp] theorem ensures_done (value : α) :
    Ensures contract post (.done value : Program κ ρ ε α) state ↔ post value state := Iff.rfl

@[simp] theorem ensures_pure (value : α) :
    Ensures contract post (pure value : Program κ ρ ε α) state ↔ post value state := Iff.rfl

@[simp] theorem ensures_fail (error : ε) :
    Ensures contract post (.fail error : Program κ ρ ε α) state ↔ True := Iff.rfl

@[simp] theorem ensures_call (request : κ) (next : ρ request → Program κ ρ ε α) :
    Ensures contract post (.call request next) state ↔
      contract.requires request state ∧
        ∀ reply after, contract.allows request state reply after →
          Ensures contract post (next reply) after := Iff.rfl

/-- Weaker postconditions are met where stronger ones are. -/
theorem Meets.mono (met : Meets contract post failed program state)
    (implies : ∀ value after, post value after → weaker value after)
    (fails : ∀ error after, failed error after → other error after) :
    Meets contract weaker other program state := by
  induction program generalizing state with
  | done value => exact implies _ _ met
  | fail error => exact fails _ _ met
  | call request next ih =>
    exact ⟨met.1, fun reply after allowed => ih reply (met.2 reply after allowed)⟩

/-- A program in sequence: the first ensures what the second needs. -/
theorem Meets.bind {next : α → Program κ ρ ε β} {final : β → τ → Prop}
    (met : Meets contract (fun value after => Meets contract final failed (next value) after)
      failed program state) :
    Meets contract final failed (program >>= next) state := by
  induction program generalizing state with
  | done value => exact met
  | fail error => exact met
  | call request rest ih =>
    exact ⟨met.1, fun reply after allowed => ih reply (met.2 reply after allowed)⟩

/-- A loop over a list keeps an invariant indexed by what is left of the list. -/
theorem meets_forM {γ : Type} (keeps : List γ → τ → Prop) (body : γ → Program κ ρ ε PUnit)
    (items : List γ) (start : keeps items state)
    (each : ∀ item rest state, keeps (item :: rest) state →
      Meets contract (fun _ after => keeps rest after) failed (body item) state) :
    Meets contract (fun _ after => keeps [] after) failed (items.forM body) state := by
  induction items generalizing state with
  | nil => exact start
  | cons item rest ih =>
    refine Meets.bind ((each item rest state start).mono ?_ fun _ _ met => met)
    intro _ after kept
    exact ih kept

/-- A weaker postcondition is ensured where a stronger one is. -/
theorem Ensures.mono (ensured : Ensures contract post program state)
    (implies : ∀ value after, post value after → weaker value after) :
    Ensures contract weaker program state :=
  Meets.mono ensured implies fun _ _ _ => trivial

/-- A program in sequence, where failing promises nothing. -/
theorem Ensures.bind {next : α → Program κ ρ ε β} {final : β → τ → Prop}
    (ensured : Ensures contract (fun value after => Ensures contract final (next value) after)
      program state) :
    Ensures contract final (program >>= next) state :=
  Meets.bind ensured

/-- A loop over a list, where failing promises nothing. -/
theorem ensures_forM {γ : Type} (keeps : List γ → τ → Prop) (body : γ → Program κ ρ ε PUnit)
    (items : List γ) (start : keeps items state)
    (each : ∀ item rest state, keeps (item :: rest) state →
      Ensures contract (fun _ after => keeps rest after) (body item) state) :
    Ensures contract (fun _ after => keeps [] after) (items.forM body) state :=
  meets_forM keeps body items start each

/-- Every call may be made and may have any reply; the calls and their replies are recorded, in
order. -/
def traced : Contract κ ρ (List (Σ request, ρ request)) where
  requires _ _ := True
  allows request trace reply after := after = trace ++ [⟨request, reply⟩]

/-- The rule for a call that is recorded. -/
theorem meets_traced {post : α → List (Σ request, ρ request) → Prop}
    {failed : ε → List (Σ request, ρ request) → Prop} {request : κ}
    {next : ρ request → Program κ ρ ε α} {trace : List (Σ request, ρ request)}
    (later : ∀ reply, Meets traced post failed (next reply) (trace ++ [⟨request, reply⟩])) :
    Meets traced post failed (.call request next) trace := by
  refine ⟨trivial, ?_⟩
  rintro reply after rfl
  exact later reply

end Program

end Library
