import Mathlib.Order.Defs.LinearOrder
import Mathlib.Order.Basic
import Mathlib.Data.Int.Order.Basic
import Mathlib.Data.Prod.Lex

/-!
# Values shared by every part of the service

Identifiers, instants and JSON values. `Uuid` compares as its sixteen bytes do, which is both
PostgreSQL's order and the crate's. An instant is chrono's `DateTime<Utc>`, in nanoseconds;
`DateTime.timestamptz` is what a `TIMESTAMPTZ` column keeps of it.
-/

namespace SvcNotifier

/-- `uuid::Uuid`: sixteen bytes, read as one number. -/
structure Uuid where
  /-- The 128 bits. -/
  bits : BitVec 128
  deriving DecidableEq, Repr

/-- Distinct identifiers are distinct numbers. -/
theorem Uuid.toNat_injective : Function.Injective fun id : Uuid => id.bits.toNat := by
  intro left right same
  cases left
  cases right
  exact congrArg Uuid.mk (BitVec.eq_of_toNat_eq same)

instance : LinearOrder Uuid := LinearOrder.lift' (fun id => id.bits.toNat) Uuid.toNat_injective

/-- A small identifier, to run the model on. -/
def sampleId (n : Nat) : Uuid := ⟨BitVec.ofNat 128 n⟩

/-- `chrono::DateTime<Utc>`: nanoseconds since the epoch. -/
structure DateTime where
  /-- Nanoseconds since the epoch. -/
  nanos : Int
  deriving DecidableEq, Repr

/-- Distinct instants are distinct counts. -/
theorem DateTime.nanos_injective : Function.Injective DateTime.nanos := by
  intro left right same
  cases left
  cases right
  exact congrArg DateTime.mk same

instance : LinearOrder DateTime := LinearOrder.lift' DateTime.nanos DateTime.nanos_injective

/-- What a `TIMESTAMPTZ` column keeps of a bound instant: its microseconds. `sqlx` cuts the rest off
towards 2000-01-01, which is the same for every clock from then on, and for whole microseconds. -/
def DateTime.timestamptz (instant : DateTime) : DateTime := ⟨instant.nanos / 1000 * 1000⟩

/-- `serde_json::Number`. -/
inductive Number where
  /-- A non-negative integer. -/
  | posInt (value : UInt64)
  /-- A negative integer. -/
  | negInt (value : Int64)
  /-- A binary64 number, by its bits. -/
  | float (bits : UInt64)
  deriving DecidableEq, Repr

/-- `serde_json::Value`. An object is its map's entries, in key order, each key once. -/
inductive Value where
  /-- `null`. -/
  | null
  /-- A flag. -/
  | bool (flag : Bool)
  /-- A number. -/
  | number (value : Number)
  /-- A string. -/
  | string (text : String)
  /-- An array. -/
  | array (items : List Value)
  /-- An object. -/
  | object (entries : List (String × Value))

end SvcNotifier
