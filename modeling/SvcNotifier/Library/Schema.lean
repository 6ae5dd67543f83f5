import Mathlib.Data.List.Basic

/-!
# Tables with constraints

A table is its columns and its unique indexes, as data definition statements leave them. A row
holds a value or NULL for each column. An INSERT is refused where it leaves a column without the
value it must have or takes a key that is taken; a conflict on the key it names adds nothing
instead. What is not refused keeps every constraint.
-/

namespace Library

variable {τ δ α : Type}

/-- A column. -/
structure Column (τ δ : Type) where
  /-- Its name. -/
  name : String
  /-- The type of its values. -/
  type : τ
  /-- Whether it must hold one. -/
  notNull : Bool
  /-- What the column holds where an INSERT leaves it out; NULL if there is none. -/
  default_ : Option δ
  deriving DecidableEq, Repr

/-- A table: its columns, and the column lists of its unique indexes. -/
structure Table (τ δ : Type) where
  /-- Its columns, in order. -/
  columns : List (Column τ δ)
  /-- The columns of each unique index. -/
  unique : List (List String)
  deriving DecidableEq, Repr

/-- A statement that changes what a table admits. -/
inductive Ddl (τ δ : Type) where
  /-- `CREATE TABLE`, with its primary key. -/
  | createTable (columns : List (Column τ δ)) (primaryKey : List String)
  /-- `CREATE UNIQUE INDEX`. -/
  | createUniqueIndex (key : List String)
  /-- `ADD COLUMN`. -/
  | addColumn (column : Column τ δ)
  /-- `DROP NOT NULL`. -/
  | dropNotNull (column : String)
  /-- `DROP DEFAULT`. -/
  | dropDefault (column : String)

namespace Table

/-- Change a column of a table. -/
def alterColumn (table : Table τ δ) (name : String) (change : Column τ δ → Column τ δ) :
    Table τ δ :=
  { table with
    columns := table.columns.map fun column =>
      if column.name = name then change column else column }

/-- What a statement makes of a table. -/
def alter (table : Table τ δ) : Ddl τ δ → Table τ δ
  | .createTable columns primaryKey => { columns := columns, unique := [primaryKey] }
  | .createUniqueIndex key => { table with unique := table.unique ++ [key] }
  | .addColumn column => { table with columns := table.columns ++ [column] }
  | .dropNotNull name => table.alterColumn name fun column => { column with notNull := false }
  | .dropDefault name => table.alterColumn name fun column => { column with default_ := none }

/-- The table that statements leave. -/
def after (statements : List (Ddl τ δ)) : Table τ δ :=
  statements.foldl alter { columns := [], unique := [] }

end Table

/-- A row: its columns, each with its value or NULL. -/
abbrev Cells (α : Type) := List (String × Option α)

/-- What a row holds in a column. -/
def Cells.at_ (cells : Cells α) (name : String) : Option α := (cells.lookup name).join

/-- Why an INSERT is refused. -/
inductive Refusal where
  /-- A column that must hold a value holds none. -/
  | notNull (column : String)
  /-- A value is of another type than its column. -/
  | mistyped (column : String)
  /-- A row agrees with another on a unique index. -/
  | uniqueViolation (key : List String)
  deriving DecidableEq, Repr

/-- What is wrong with the value a row has in a column. -/
def Column.flaw (typed : τ → α → Bool) (cells : Cells α) (column : Column τ δ) : Option Refusal :=
  match cells.at_ column.name with
  | none => if column.notNull then some (.notNull column.name) else none
  | some value => if typed column.type value then none else some (.mistyped column.name)

section

variable {typed : τ → α → Bool} {cells : Cells α} {column : Column τ δ}

/-- A value of the column's type has no flaw. -/
theorem flaw_value {value : α} (holds : cells.at_ column.name = some value)
    (fits : typed column.type value = true) : column.flaw typed cells = none := by
  simp only [Column.flaw, holds, fits, if_true]

/-- What may be left out of a column has no flaw there. -/
theorem flaw_nullable {β : Type} {optional : Option β} {value : β → α}
    (holds : cells.at_ column.name = optional.map value) (nullable : column.notNull = false)
    (fits : ∀ given ∈ optional, typed column.type (value given) = true) :
    column.flaw typed cells = none := by
  cases optional with
  | none =>
    have null : cells.at_ column.name = none := holds
    simp only [Column.flaw, null, nullable, Bool.false_eq_true, if_false]
  | some given => exact flaw_value holds (fits given rfl)

end

namespace Table

variable (table : Table τ δ) (typed : τ → α → Bool)

/-- The row an INSERT proposes: what it binds, and the defaults of the columns it leaves out. -/
def complete (evaluate : δ → α) (bound : Cells α) : Cells α :=
  table.columns.map fun column =>
    (column.name, (bound.lookup column.name).getD (column.default_.map evaluate))

/-- The row has all the values it must have, each of its column's type. -/
def Admits (cells : Cells α) : Prop := ∀ column ∈ table.columns, column.flaw typed cells = none

variable [DecidableEq α]

/-- Two rows agree on a key, in which neither has a NULL. -/
def agree (key : List String) (row other : Cells α) : Bool :=
  key.all fun name => (row.at_ name).isSome && row.at_ name == other.at_ name

/-- `INSERT … ON CONFLICT (arbiter) DO NOTHING` of a row: the rows it adds. -/
def insert (arbiter : List String) (rows : List (Cells α)) (cells : Cells α) :
    Except Refusal (List (Cells α)) :=
  match table.columns.findSome? (Column.flaw typed cells) with
  | some refusal => .error refusal
  | none =>
    if rows.any (agree arbiter cells) then .ok []
    else match table.unique.find? fun key => rows.any (agree key cells) with
      | some key => .error (.uniqueViolation key)
      | none => .ok [cells]

/-- The rows meet the constraints of the table. -/
structure Satisfied (rows : List (Cells α)) : Prop where
  /-- Each row is admitted. -/
  admitted : ∀ cells ∈ rows, table.Admits typed cells
  /-- No two agree on a unique index. -/
  distinct : ∀ key ∈ table.unique, rows.Pairwise fun row other => agree key other row = false

variable {table typed} {arbiter : List String} {rows : List (Cells α)} {cells : Cells α}

/-- A row that is admitted and takes no key but the arbiter's is not refused. -/
theorem insert_admitted (admits : table.Admits typed cells)
    (free : ∀ key ∈ table.unique, rows.any (agree key cells) = true →
      rows.any (agree arbiter cells) = true) :
    table.insert typed arbiter rows cells =
      .ok (if rows.any (agree arbiter cells) then [] else [cells]) := by
  have flawless : table.columns.findSome? (Column.flaw typed cells) = none :=
    List.findSome?_eq_none_iff.mpr admits
  rw [insert, flawless]
  by_cases taken : rows.any (agree arbiter cells) = true
  · simp only [taken, if_true]
  · have untaken : table.unique.find? (fun key => rows.any (agree key cells)) = none := by
      rw [List.find?_eq_none]
      intro key member conflict
      exact taken (free key member conflict)
    simp only [taken, untaken, Bool.false_eq_true, if_false]

/-- What an INSERT adds keeps every constraint. -/
theorem insert_keeps {added : List (Cells α)} (satisfied : table.Satisfied typed rows)
    (inserted : table.insert typed arbiter rows cells = .ok added) :
    table.Satisfied typed (rows ++ added) := by
  unfold insert at inserted
  split at inserted
  · contradiction
  · rename_i flawless
    split at inserted
    · rw [← Except.ok.inj inserted, List.append_nil]
      exact satisfied
    · split at inserted
      · contradiction
      · rename_i untaken
        have one : [cells] = added := Except.ok.inj inserted
        subst one
        have fresh := List.find?_eq_none.mp untaken
        refine ⟨?_, ?_⟩
        · intro row member
          rcases List.mem_append.mp member with old | new
          · exact satisfied.admitted row old
          · rw [List.mem_singleton.mp new]
            exact List.findSome?_eq_none_iff.mp flawless
        · intro key member
          rw [List.pairwise_append]
          refine ⟨satisfied.distinct key member, List.pairwise_singleton _ _, ?_⟩
          intro row there other new
          rw [List.mem_singleton.mp new]
          have unlike := fresh key member
          rw [List.any_eq_true] at unlike
          exact Bool.eq_false_iff.mpr fun alike => unlike ⟨row, there, alike⟩

/-- Taking rows off keeps every constraint. -/
theorem Satisfied.sublist {fewer : List (Cells α)} (satisfied : table.Satisfied typed rows)
    (sub : fewer.Sublist rows) : table.Satisfied typed fewer where
  admitted cells member := satisfied.admitted cells (sub.subset member)
  distinct key member := (satisfied.distinct key member).sublist sub

end Table

end Library
