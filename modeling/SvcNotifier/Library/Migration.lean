import SvcNotifier.Library.Schema
import Mathlib.Data.List.Find

/-!
# Changing a table that holds rows

A statement that changes what a table admits may fail on the rows that are there. Where it does
not, every row keeps what it holds and gains the statement's new column, and the rows meet the
constraints of the table that comes of it. A new column that nobody binds is nothing to an INSERT:
inserting and then adding the column comes to the same as adding it first.
-/

namespace Library

variable {τ δ α : Type}

/-! ## Columns at the end of a row -/

namespace Cells

variable {cells more : Cells α} {name : String}

/-- What a row holds in a column it has, it holds with more columns after it. -/
theorem at_append (there : name ∈ cells.map Prod.fst) :
    Cells.at_ (cells ++ more) name = cells.at_ name := by
  have found : (cells.lookup name).isSome = true := by
    obtain ⟨cell, member, rfl⟩ := List.mem_map.mp there
    exact List.lookup_isSome_iff.mpr ⟨cell, member, beq_self_eq_true _⟩
  obtain ⟨value, isValue⟩ := Option.isSome_iff_exists.mp found
  simp only [Cells.at_, List.lookup_append, isValue, Option.some_or]

/-- What it holds in a new column is what was given there. -/
theorem at_append_new (new : name ∉ cells.map Prod.fst) :
    Cells.at_ (cells ++ more) name = Cells.at_ more name := by
  have none_ : cells.lookup name = none := by
    rw [List.lookup_eq_none_iff]
    intro cell member
    rw [bne_iff_ne]
    rintro rfl
    exact new (List.mem_map_of_mem member)
  simp only [Cells.at_, List.lookup_append, none_, Option.none_or]

end Cells

namespace Table

/-- The table has a column of that name. -/
def has (table : Table τ δ) (name : String) : Bool :=
  table.columns.any fun column => column.name == name

/-- The column of that name is one of the table's. -/
theorem has_iff {table : Table τ δ} {name : String} :
    table.has name = true ↔ name ∈ table.columns.map Column.name := by
  simp [has]

/-- Changing a column leaves the names as they are. -/
theorem names_alterColumn (table : Table τ δ) (name : String)
    {change : Column τ δ → Column τ δ} (same : ∀ column, (change column).name = column.name) :
    (table.alterColumn name change).columns.map Column.name = table.columns.map Column.name := by
  rw [alterColumn, List.map_map]
  apply List.map_congr_left
  intro column _
  by_cases this : column.name = name
  · simp [this, same]
  · simp [this]

end Table

/-- What a statement adds to each row. -/
def Ddl.extension (evaluate : δ → α) : Ddl τ δ → Cells α
  | .addColumn column => [(column.name, column.default_.map evaluate)]
  | _ => []

namespace Table

/-- A completed row has the table's columns. -/
theorem shaped_complete (table : Table τ δ) (evaluate : δ → α) (bound : Cells α) :
    (table.complete evaluate bound).map Prod.fst = table.columns.map Column.name := by
  simp [complete]

/-- An INSERT that binds nothing of a new column completes its row by the column's default. -/
theorem complete_addColumn {table : Table τ δ} {evaluate : δ → α} {column : Column τ δ}
    {bound : Cells α} (unbound : bound.lookup column.name = none) :
    (table.alter (.addColumn column)).complete evaluate bound =
      table.complete evaluate bound ++ Ddl.extension evaluate (.addColumn column) := by
  simp [complete, alter, Ddl.extension, unbound]

end Table

/-! ## One statement -/

variable [DecidableEq α] {typed : τ → α → Bool} {evaluate : δ → α} {table : Table τ δ}
  {rows later : List (Cells α)} {statement : Ddl τ δ} {cells : Cells α}

namespace Ddl

variable (typed evaluate table) in
/-- What a statement makes of the rows that are there, unless it fails: on a table that is there
already, a column that is not, rows that a new constraint does not let pass. -/
def carry (rows : List (Cells α)) : Ddl τ δ → Option (List (Cells α))
  | .createTable columns primaryKey =>
    if table.columns.isEmpty && table.unique.isEmpty && rows.isEmpty &&
        primaryKey.all fun name => columns.any fun column => column.name == name
    then some [] else none
  | .createUniqueIndex key =>
    if key.all table.has &&
        decide (rows.Pairwise fun row other => Table.agree key other row = false)
    then some rows else none
  | .addColumn column =>
    if table.has column.name then none
    else match column.default_.map evaluate with
      | some value =>
        if typed column.type value then some (rows.map (· ++ [(column.name, some value)]))
        else none
      | none =>
        if column.notNull && !rows.isEmpty then none
        else some (rows.map (· ++ [(column.name, none)]))
  | .dropNotNull name => if table.has name then some rows else none
  | .dropDefault name => if table.has name then some rows else none

variable (typed evaluate table) in
/-- No rows are in the way of the statement. -/
def harmless : Ddl τ δ → Bool
  | .addColumn column => !table.has column.name && match column.default_.map evaluate with
    | some value => typed column.type value
    | none => !column.notNull
  | .dropNotNull name => table.has name
  | .dropDefault name => table.has name
  | _ => false

/-- Every row keeps what it holds. -/
theorem carry_rows (carried : statement.carry typed evaluate table rows = some later) :
    later = rows.map (· ++ statement.extension evaluate) := by
  cases statement with
  | createTable columns primaryKey =>
    simp only [carry] at carried
    split at carried
    · rename_i fits
      simp only [Bool.and_eq_true, List.isEmpty_iff] at fits
      obtain rfl := Option.some.inj carried
      rw [fits.1.2]
      rfl
    · contradiction
  | addColumn column =>
    simp only [carry] at carried
    split at carried
    · contradiction
    · cases given : column.default_.map evaluate with
      | some value =>
        simp only [given] at carried
        split at carried
        · obtain rfl := Option.some.inj carried
          rw [extension, given]
        · contradiction
      | none =>
        simp only [given] at carried
        split at carried
        · contradiction
        · obtain rfl := Option.some.inj carried
          rw [extension, given]
  | _ =>
    simp only [carry] at carried
    split at carried
    · obtain rfl := Option.some.inj carried
      simp [extension]
    · contradiction

/-- A harmless statement fails on no rows. -/
theorem carries_of_harmless (harmless : statement.harmless typed evaluate table = true)
    (rows : List (Cells α)) : ∃ later, statement.carry typed evaluate table rows = some later := by
  cases statement with
  | createTable columns primaryKey => contradiction
  | createUniqueIndex key => contradiction
  | addColumn column =>
    obtain ⟨new, fits⟩ := Bool.and_eq_true_iff.mp harmless
    rw [Bool.not_eq_true'] at new
    cases given : column.default_.map evaluate with
    | some value =>
      simp only [given] at fits
      exact ⟨_, by simp [carry, new, given, fits]; rfl⟩
    | none =>
      simp only [given, Bool.not_eq_true'] at fits
      exact ⟨_, by simp [carry, new, given, fits]; rfl⟩
  | dropNotNull name => exact ⟨rows, if_pos harmless⟩
  | dropDefault name => exact ⟨rows, if_pos harmless⟩

end Ddl

namespace Table

variable (table typed) in
/-- Rows of the table: each has the table's columns, and together they meet its constraints. -/
structure Holds (rows : List (Cells α)) : Prop where
  /-- Each row has the columns of the table. -/
  shaped : ∀ cells ∈ rows, cells.map Prod.fst = table.columns.map Column.name
  /-- The unique indexes are over columns of the table. -/
  keyed : ∀ key ∈ table.unique, ∀ name ∈ key, table.has name = true
  /-- The constraints are met. -/
  satisfied : table.Satisfied typed rows

/-- A row that has more columns holds the same in those of the table. -/
theorem Holds.at_append (holds : table.Holds typed rows) (member : cells ∈ rows) {name : String}
    (there : table.has name = true) (more : Cells α) :
    Cells.at_ (cells ++ more) name = cells.at_ name := by
  apply Cells.at_append
  rw [holds.shaped cells member]
  exact has_iff.mp there

/-- Rows agree on columns of the table as they did before they had more. -/
theorem agree_append {left right more : Cells α} {key : List String}
    (same : ∀ name ∈ key, Cells.at_ (left ++ more) name = left.at_ name ∧
      Cells.at_ (right ++ more) name = right.at_ name) :
    agree key (left ++ more) (right ++ more) = agree key left right := by
  unfold agree
  rw [Bool.eq_iff_iff, List.all_eq_true, List.all_eq_true]
  refine forall₂_congr fun name member => ?_
  rw [(same name member).1, (same name member).2]

/-- The rows with more columns still differ in every key. -/
theorem Holds.distinct_append (holds : table.Holds typed rows) (more : Cells α)
    {key : List String} (isKey : key ∈ table.unique) :
    (rows.map (· ++ more)).Pairwise fun row other => agree key other row = false := by
  rw [List.pairwise_map]
  refine (holds.satisfied.distinct key isKey).imp_of_mem ?_
  intro row other isRow isOther apart
  rw [agree_append fun name member =>
    ⟨holds.at_append isOther (holds.keyed key isKey name member) _,
      holds.at_append isRow (holds.keyed key isKey name member) _⟩]
  exact apart

/-- A column of the table has no other flaw in a row with more columns. -/
theorem Holds.flaw_append (holds : table.Holds typed rows) (member : cells ∈ rows)
    {column : Column τ δ} (isColumn : column ∈ table.columns) (more : Cells α) :
    column.flaw typed (cells ++ more) = column.flaw typed cells := by
  have there : table.has column.name = true := has_iff.mpr (List.mem_map_of_mem isColumn)
  simp only [Column.flaw, holds.at_append member there]

/-- What changes a column only by its default, or by what it may leave out, changes no flaw into
one that was none. -/
theorem Holds.alterColumn (holds : table.Holds typed rows) (name : String)
    {change : Column τ δ → Column τ δ} (same : ∀ column, (change column).name = column.name)
    (laxer : ∀ column cells, column.flaw typed cells = none →
      (change column).flaw typed cells = none) :
    (table.alterColumn name change).Holds typed rows where
  shaped cells member := by
    rw [names_alterColumn table name same]
    exact holds.shaped cells member
  keyed key isKey other member := by
    rw [has_iff, names_alterColumn table name same, ← has_iff]
    exact holds.keyed key isKey other member
  satisfied := by
    refine ⟨?_, holds.satisfied.distinct⟩
    intro cells member column isColumn
    obtain ⟨old, isOld, rfl⟩ := List.mem_map.mp isColumn
    have flawless := holds.satisfied.admitted cells member old isOld
    by_cases this : old.name = name
    · rw [if_pos this]
      exact laxer old cells flawless
    · rw [if_neg this]
      exact flawless

/-- The rows are rows of the table with one column more. -/
theorem Holds.addColumn (holds : table.Holds typed rows) {column : Column τ δ} {value : Option α}
    (fits : ∀ cells ∈ rows, column.flaw typed (cells ++ [(column.name, value)]) = none) :
    (table.alter (.addColumn column)).Holds typed (rows.map (· ++ [(column.name, value)])) where
  shaped cells member := by
    obtain ⟨before, isBefore, rfl⟩ := List.mem_map.mp member
    simp [alter, holds.shaped before isBefore]
  keyed key isKey name member := by
    have there := holds.keyed key isKey name member
    rw [has_iff] at there ⊢
    simp only [alter, List.map_append]
    exact List.mem_append_left _ there
  satisfied := by
    refine ⟨?_, fun key isKey => holds.distinct_append _ isKey⟩
    intro cells member old isOld
    obtain ⟨before, isBefore, rfl⟩ := List.mem_map.mp member
    rcases List.mem_append.mp isOld with inside | last
    · rw [holds.flaw_append isBefore inside]
      exact holds.satisfied.admitted before isBefore old inside
    · rw [List.mem_singleton.mp last]
      exact fits before isBefore

/-- A column that the rows of the table do not have. -/
theorem Holds.at_new (holds : table.Holds typed rows) (member : cells ∈ rows) {name : String}
    (new : table.has name = false) (value : Option α) :
    Cells.at_ (cells ++ [(name, value)]) name = value := by
  rw [Cells.at_append_new]
  · simp [Cells.at_]
  · rw [holds.shaped cells member, ← has_iff, new]
    exact Bool.false_ne_true

/-- A row agrees on a column with those that hold the same value in it. -/
theorem agree_singleton {name : String} {value : α} (holds : cells.at_ name = some value)
    (row : Cells α) : agree [name] cells row = (row.at_ name == some value) := by
  rw [agree, List.all_cons, List.all_nil, Bool.and_true, holds, Option.isSome_some, Bool.true_and]
  exact BEq.comm

/-- An INSERT adds the row it proposes, or none. -/
theorem mem_of_insert {arbiter : List String} {added : List (Cells α)} {row : Cells α}
    (inserted : table.insert typed arbiter rows cells = .ok added) (member : row ∈ added) :
    row = cells := by
  unfold insert at inserted
  split at inserted
  · contradiction
  · split at inserted
    · rw [← Except.ok.inj inserted] at member
      contradiction
    · split at inserted
      · contradiction
      · rw [← Except.ok.inj inserted] at member
        exact List.mem_singleton.mp member

/-- What a statement makes of the rows of a table are rows of the table it makes. -/
theorem Holds.carry (holds : table.Holds typed rows)
    (carried : statement.carry typed evaluate table rows = some later) :
    (table.alter statement).Holds typed later := by
  cases statement with
  | createTable columns primaryKey =>
    simp only [Ddl.carry] at carried
    split at carried
    · rename_i fits
      obtain ⟨-, keyed⟩ := Bool.and_eq_true_iff.mp fits
      obtain rfl := Option.some.inj carried
      refine ⟨fun cells member => by contradiction, ?_, ?_⟩
      · intro key isKey name member
        obtain rfl := List.mem_singleton.mp isKey
        exact List.all_eq_true.mp keyed name member
      · exact ⟨fun cells member => by contradiction, fun key isKey => List.Pairwise.nil⟩
    · contradiction
  | createUniqueIndex key =>
    simp only [Ddl.carry] at carried
    split at carried
    · rename_i fits
      obtain ⟨keyed, distinct⟩ := Bool.and_eq_true_iff.mp fits
      obtain rfl := Option.some.inj carried
      refine ⟨holds.shaped, ?_, holds.satisfied.admitted, ?_⟩
      · intro other isKey name member
        rcases List.mem_append.mp isKey with old | last
        · exact holds.keyed other old name member
        · obtain rfl := List.mem_singleton.mp last
          exact List.all_eq_true.mp keyed name member
      · intro other isKey
        rcases List.mem_append.mp isKey with old | last
        · exact holds.satisfied.distinct other old
        · obtain rfl := List.mem_singleton.mp last
          exact of_decide_eq_true distinct
    · contradiction
  | addColumn column =>
    simp only [Ddl.carry] at carried
    split at carried
    · contradiction
    · rename_i absent
      have new := Bool.eq_false_iff.mpr absent
      cases given : column.default_.map evaluate with
      | some value =>
        simp only [given] at carried
        split at carried
        · rename_i fits
          obtain rfl := Option.some.inj carried
          refine holds.addColumn fun cells member => ?_
          exact flaw_value (holds.at_new member new (some value)) fits
        · contradiction
      | none =>
        simp only [given] at carried
        split at carried
        · contradiction
        · rename_i free
          obtain rfl := Option.some.inj carried
          refine holds.addColumn fun cells member => ?_
          have nullable : column.notNull = false := by
            have some_ : rows.isEmpty = false := by
              cases rows with
              | nil => contradiction
              | cons first rest => rfl
            simpa [some_] using free
          simp only [Column.flaw, holds.at_new member new none, nullable, Bool.false_eq_true,
            if_false]
  | dropNotNull name =>
    simp only [Ddl.carry] at carried
    split at carried
    · obtain rfl := Option.some.inj carried
      refine holds.alterColumn name (fun _ => rfl) fun column cells flawless => ?_
      simp only [Column.flaw] at flawless ⊢
      split at flawless
      · simp
      · exact flawless
    · contradiction
  | dropDefault name =>
    simp only [Ddl.carry] at carried
    split at carried
    · obtain rfl := Option.some.inj carried
      exact holds.alterColumn name (fun _ => rfl) fun column cells flawless => flawless
    · contradiction

/-! ## One statement after the other -/

/-- The table that further statements leave. -/
def alterAll (table : Table τ δ) (statements : List (Ddl τ δ)) : Table τ δ :=
  statements.foldl alter table

variable (typed evaluate) in
/-- What statements make of the rows that are there, unless one of them fails. -/
def carryAll : Table τ δ → List (Cells α) → List (Ddl τ δ) → Option (List (Cells α))
  | _, rows, [] => some rows
  | table, rows, statement :: statements =>
    match statement.carry typed evaluate table rows with
    | some later => carryAll (table.alter statement) later statements
    | none => none

variable (typed evaluate) in
/-- No rows are in the way of the statements. -/
def harmless : Table τ δ → List (Ddl τ δ) → Bool
  | _, [] => true
  | table, statement :: statements =>
    statement.harmless typed evaluate table && harmless (table.alter statement) statements

/-- What is made of the rows by all statements but the first. -/
theorem carryAll_cons {statements : List (Ddl τ δ)}
    (carried : carryAll typed evaluate table rows (statement :: statements) = some later) :
    ∃ middle, statement.carry typed evaluate table rows = some middle ∧
      carryAll typed evaluate (table.alter statement) middle statements = some later := by
  simp only [carryAll] at carried
  cases first : statement.carry typed evaluate table rows with
  | none =>
    rw [first] at carried
    contradiction
  | some middle =>
    rw [first] at carried
    exact ⟨middle, rfl, carried⟩

/-- Every row keeps what it holds. -/
theorem carryAll_rows {statements : List (Ddl τ δ)}
    (carried : carryAll typed evaluate table rows statements = some later) :
    later = rows.map (· ++ statements.flatMap (Ddl.extension evaluate)) := by
  induction statements generalizing table rows with
  | nil =>
    obtain rfl := Option.some.inj carried
    simp
  | cons statement statements ih =>
    obtain ⟨middle, first, rest⟩ := carryAll_cons carried
    rw [ih rest, Ddl.carry_rows first, List.map_map]
    simp [Function.comp_def]

/-- What statements make of the rows of a table are rows of the table they make. -/
theorem Holds.carryAll {statements : List (Ddl τ δ)} (holds : table.Holds typed rows)
    (carried : carryAll typed evaluate table rows statements = some later) :
    (table.alterAll statements).Holds typed later := by
  induction statements generalizing table rows with
  | nil =>
    obtain rfl := Option.some.inj carried
    exact holds
  | cons statement statements ih =>
    obtain ⟨middle, first, rest⟩ := carryAll_cons carried
    exact ih (holds.carry first) rest

/-- Harmless statements fail on no rows. -/
theorem carriesAll_of_harmless {statements : List (Ddl τ δ)}
    (unharmed : harmless typed evaluate table statements = true) (rows : List (Cells α)) :
    ∃ later, carryAll typed evaluate table rows statements = some later := by
  induction statements generalizing table rows with
  | nil => exact ⟨rows, rfl⟩
  | cons statement statements ih =>
    obtain ⟨first, rest⟩ := Bool.and_eq_true_iff.mp unharmed
    obtain ⟨middle, carried⟩ := Ddl.carries_of_harmless first rows
    obtain ⟨later, goesOn⟩ := ih rest middle
    exact ⟨later, by simp only [carryAll, carried, goesOn]⟩

/-! ## An INSERT and new columns -/

/-- Whether an INSERT is refused, and whether it conflicts, is not told from a new column that it
does not bind. -/
theorem Holds.insert_addColumn (holds : table.Holds typed rows) {column : Column τ δ}
    {bound : Cells α} {arbiter : List String}
    (unharmed : (Ddl.addColumn column).harmless typed evaluate table = true)
    (unbound : bound.lookup column.name = none) (known : ∀ name ∈ arbiter, table.has name = true) :
    (table.alter (.addColumn column)).insert typed arbiter
        (rows.map (· ++ Ddl.extension evaluate (.addColumn column)))
        ((table.alter (.addColumn column)).complete evaluate bound) =
      (table.insert typed arbiter rows (table.complete evaluate bound)).map
        (List.map (· ++ Ddl.extension evaluate (.addColumn column))) := by
  obtain ⟨absent, fits⟩ := Bool.and_eq_true_iff.mp unharmed
  have new : table.has column.name = false := by simpa using absent
  have shaped := shaped_complete table evaluate bound
  rw [complete_addColumn unbound]
  generalize table.complete evaluate bound = cells at shaped
  have sameAt : ∀ name, table.has name = true →
      Cells.at_ (cells ++ Ddl.extension evaluate (.addColumn column)) name = cells.at_ name := by
    intro name there
    apply Cells.at_append
    rw [shaped]
    exact has_iff.mp there
  have flaws : (table.alter (.addColumn column)).columns.findSome?
      (Column.flaw typed (cells ++ Ddl.extension evaluate (.addColumn column))) =
        table.columns.findSome? (Column.flaw typed cells) := by
    have last : column.flaw typed (cells ++ Ddl.extension evaluate (.addColumn column)) = none := by
      have value : Cells.at_ (cells ++ Ddl.extension evaluate (.addColumn column)) column.name =
          column.default_.map evaluate := by
        rw [Cells.at_append_new]
        · simp [Cells.at_, Ddl.extension]
        · rw [shaped, ← has_iff, new]
          exact Bool.false_ne_true
      cases given : column.default_.map evaluate with
      | some found =>
        simp only [given] at fits
        exact flaw_value (value.trans given) fits
      | none =>
        simp only [given, Bool.not_eq_true'] at fits
        simp only [Column.flaw, value, given, fits, Bool.false_eq_true, if_false]
    have others : table.columns.findSome?
        (Column.flaw typed (cells ++ Ddl.extension evaluate (.addColumn column))) =
          table.columns.findSome? (Column.flaw typed cells) := by
      rw [← List.head?_filterMap, ← List.head?_filterMap]
      congr 1
      apply List.filterMap_congr
      intro old isOld
      simp only [Column.flaw, sameAt old.name (has_iff.mpr (List.mem_map_of_mem isOld))]
    simp only [alter, List.findSome?_append, others, List.findSome?_cons, last, List.findSome?_nil,
      Option.or_none]
  have agrees : ∀ key, (∀ name ∈ key, table.has name = true) →
      (rows.map (· ++ Ddl.extension evaluate (.addColumn column))).any
          (agree key (cells ++ Ddl.extension evaluate (.addColumn column))) =
        rows.any (agree key cells) := by
    intro key known
    rw [List.any_map, Bool.eq_iff_iff, List.any_eq_true, List.any_eq_true]
    refine exists_congr fun row => and_congr_right fun member => ?_
    rw [Function.comp_apply, agree_append fun name inside =>
      ⟨sameAt name (known name inside), holds.at_append member (known name inside) _⟩]
  have violates : (table.alter (.addColumn column)).unique.find? (fun key =>
      (rows.map (· ++ Ddl.extension evaluate (.addColumn column))).any
        (agree key (cells ++ Ddl.extension evaluate (.addColumn column)))) =
        table.unique.find? fun key => rows.any (agree key cells) := by
    apply List.find?_congr
    intro key isKey
    exact agrees key (holds.keyed key isKey)
  unfold insert
  rw [flaws, agrees arbiter known, violates]
  split
  · rfl
  · split
    · rfl
    · split
      · rfl
      · rfl

/-- Whether an INSERT is refused, and whether it conflicts, is not told from several new columns
that it does not bind. -/
theorem Holds.insert_carryAll {statements : List (Ddl τ δ)} (holds : table.Holds typed rows)
    {bound : Cells α} {arbiter : List String}
    (unharmed : harmless typed evaluate table statements = true)
    (adds : ∀ statement ∈ statements, ∃ column, statement = .addColumn column ∧
      bound.lookup column.name = none)
    (known : ∀ name ∈ arbiter, table.has name = true) :
    (table.alterAll statements).insert typed arbiter
        (rows.map (· ++ statements.flatMap (Ddl.extension evaluate)))
        ((table.alterAll statements).complete evaluate bound) =
      (table.insert typed arbiter rows (table.complete evaluate bound)).map
        (List.map (· ++ statements.flatMap (Ddl.extension evaluate))) := by
  induction statements generalizing table rows with
  | nil =>
    simp only [alterAll, List.foldl_nil, List.flatMap_nil, List.append_nil, List.map_id']
    cases table.insert typed arbiter rows (table.complete evaluate bound) with
    | error refusal => rfl
    | ok added => exact congrArg Except.ok (List.map_id' added).symm
  | cons statement statements ih =>
    obtain ⟨first, rest⟩ := Bool.and_eq_true_iff.mp unharmed
    obtain ⟨column, rfl, unbound⟩ := adds statement List.mem_cons_self
    obtain ⟨middle, carried⟩ := Ddl.carries_of_harmless first rows
    have isMiddle := Ddl.carry_rows carried
    have later := ih (holds.carry carried) rest
      (fun other member => adds other (List.mem_cons_of_mem _ member)) fun name member => by
        rw [has_iff]
        simp only [alter, List.map_append]
        exact List.mem_append_left _ (has_iff.mp (known name member))
    rw [isMiddle, holds.insert_addColumn first unbound known, List.map_map] at later
    simp only [alterAll, List.foldl_cons, List.flatMap_cons] at later ⊢
    have joined : ∀ cells : Cells α, cells ++ (Ddl.extension evaluate (.addColumn column) ++
        statements.flatMap (Ddl.extension evaluate)) =
          cells ++ Ddl.extension evaluate (.addColumn column) ++
            statements.flatMap (Ddl.extension evaluate) := by
      intro cells
      rw [List.append_assoc]
    simp only [joined]
    refine later.trans ?_
    cases table.insert typed arbiter rows (table.complete evaluate bound) with
    | error refusal => rfl
    | ok added => exact congrArg Except.ok (List.map_map ..)

end Table

end Library
