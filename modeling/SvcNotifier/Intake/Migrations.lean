import SvcNotifier.Intake.Ledger
import SvcNotifier.Library.Migration

/-!
# The migrations of the ledger

A process that starts runs the migrations that its database has not seen, beside replicas of
earlier versions that go on writing. The ledger is followed through all of its versions: whatever
has been written, no migration fails on it, no row loses what it holds, and the command of a row
written by an earlier version is not recorded again.
-/

namespace SvcNotifier

open Library

/-- `0002_dead_letters.sql`. -/
def migration0002 : List (Ddl ColumnType ColumnDefault) := deadLetterMigrations.take 2

/-- `0003_dead_letter_reason.sql`. -/
def migration0003 : List (Ddl ColumnType ColumnDefault) := (deadLetterMigrations.drop 2).take 3

/-- `0004_dead_letter_actor.sql`. -/
def migration0004 : List (Ddl ColumnType ColumnDefault) := deadLetterMigrations.drop 5

/-- What `sqlx::migrate!` runs for the ledger, in its order. -/
def migrations : List (List (Ddl ColumnType ColumnDefault)) :=
  [migration0002, migration0003, migration0004]

example : migrations.flatten = deadLetterMigrations := rfl

/-- The ledger of a database: how many of these have been applied, and the rows. -/
structure Versioned where
  /-- How many migrations have been applied. -/
  applied : Nat
  /-- The rows, by their columns. -/
  rows : List (Cells ColumnValue)

namespace Versioned

/-- A database without a ledger. -/
def start : Versioned := { applied := 0, rows := [] }

/-- The table as it stands. -/
def table (ledger : Versioned) : Table ColumnType ColumnDefault :=
  .after (migrations.take ledger.applied).flatten

/-- The next migration. -/
def migrate (now : DateTime) (ledger : Versioned) : Option Versioned :=
  match migrations[ledger.applied]? with
  | none => none
  | some statements =>
    match Table.carryAll ColumnValue.hasType (ColumnDefault.evaluate now) ledger.table ledger.rows
      statements with
    | none => none
    | some rows => some { applied := ledger.applied + 1, rows := rows }

/-- `run_migrations`: those that have not been applied, one after the other. -/
def runMigrations (now : DateTime) (ledger : Versioned) : Option Versioned :=
  (migrations.drop ledger.applied).foldlM (fun ledger _ => ledger.migrate now) ledger

/-- The columns an INSERT binds are the table's, and a unique index is on those of its
`ON CONFLICT`. -/
def knows (ledger : Versioned) (arbiter : List String) (bound : Cells ColumnValue) : Bool :=
  decide (arbiter ∈ ledger.table.unique) && bound.all fun cell => ledger.table.has cell.1

/-- `INSERT … ON CONFLICT DO NOTHING` of any version, unless it is refused. -/
def insert (now : DateTime) (arbiter : List String) (bound : Cells ColumnValue)
    (ledger : Versioned) : Option Versioned :=
  if ledger.knows arbiter bound then
    match ledger.table.insert ColumnValue.hasType arbiter ledger.rows
      (ledger.table.complete (ColumnDefault.evaluate now) bound) with
    | .error _ => none
    | .ok added => some { ledger with rows := ledger.rows ++ added }
  else none

/-- What happens to the ledger. -/
inductive Action where
  /-- A process that starts runs the next migration. -/
  | migrate (now : DateTime)
  /-- A replica of any version inserts a row. -/
  | insert (now : DateTime) (arbiter : List String) (bound : Cells ColumnValue)
  /-- A retention pass of any version deletes rows. -/
  | delete (keeps : Cells ColumnValue → Bool)

/-- One step. -/
def step (ledger : Versioned) : Action → Option Versioned
  | .migrate now => ledger.migrate now
  | .insert now arbiter bound => ledger.insert now arbiter bound
  | .delete keeps => some { ledger with rows := ledger.rows.filter keeps }

/-- What the migrations that have not been applied add to a row. -/
def missing (now : DateTime) (ledger : Versioned) : Cells ColumnValue :=
  (migrations.drop ledger.applied).flatten.flatMap (Ddl.extension (ColumnDefault.evaluate now))

/-- A row of the command is there. -/
def recorded (ledger : Versioned) (commandId : Uuid) : Bool :=
  ledger.rows.any fun cells => cells.at_ "command_id" == some (.uuid commandId)

/-- A retention pass. -/
def Action.isDelete : Action → Bool
  | .delete _ => true
  | _ => false

/-- What holds of the ledger in every version. -/
structure Kept (ledger : Versioned) : Prop where
  /-- There are three of them. -/
  applied : ledger.applied ≤ 3
  /-- There is no row before there is a table. -/
  fresh : ledger.applied = 0 → ledger.rows = []
  /-- The rows fit the table as it now is. -/
  holds : ledger.table.Holds ColumnValue.hasType ledger.rows

variable {ledger after : Versioned} {now : DateTime}

/-- The table that the next migration leaves. -/
theorem table_migrated {statements : List (Ddl ColumnType ColumnDefault)}
    (next : migrations[ledger.applied]? = some statements) (rows : List (Cells ColumnValue)) :
    table { applied := ledger.applied + 1, rows := rows } = ledger.table.alterAll statements := by
  simp only [table, List.take_add_one, next, Option.toList_some, List.flatten_append,
    List.flatten_singleton, Table.after, Table.alterAll, List.foldl_append]

/-- What the next migration does. -/
theorem of_migrate (migrated : ledger.migrate now = some after) :
    ∃ statements, migrations[ledger.applied]? = some statements ∧
      Table.carryAll ColumnValue.hasType (ColumnDefault.evaluate now) ledger.table ledger.rows
        statements = some after.rows ∧
      after.applied = ledger.applied + 1 ∧ after.table = ledger.table.alterAll statements := by
  unfold migrate at migrated
  split at migrated
  · contradiction
  · rename_i statements next
    split at migrated
    · contradiction
    · rename_i rows carried
      obtain rfl := Option.some.inj migrated
      exact ⟨statements, next, carried, rfl, table_migrated next rows⟩

/-- No migration fails on what the ledger holds. -/
theorem migrates (kept : ledger.Kept) (pending : ledger.applied < 3) (now : DateTime) :
    ∃ after, ledger.migrate now = some after := by
  obtain ⟨applied, rows⟩ := ledger
  have carried : ∃ statements, migrations[applied]? = some statements ∧ ∃ later,
      Table.carryAll ColumnValue.hasType (ColumnDefault.evaluate now)
        (table { applied := applied, rows := rows }) rows statements = some later := by
    match applied, pending with
    | 0, _ =>
      obtain rfl : rows = [] := kept.fresh rfl
      exact ⟨migration0002, rfl, _, rfl⟩
    | 1, _ => exact ⟨migration0003, rfl, Table.carriesAll_of_harmless rfl rows⟩
    | 2, _ => exact ⟨migration0004, rfl, Table.carriesAll_of_harmless rfl rows⟩
  obtain ⟨statements, next, later, carried⟩ := carried
  exact ⟨{ applied := applied + 1, rows := later }, by simp only [migrate, next, carried]⟩

/-- A migration keeps what holds. -/
theorem Kept.migrate (kept : ledger.Kept) (migrated : ledger.migrate now = some after) :
    after.Kept := by
  obtain ⟨statements, next, carried, applied, table⟩ := of_migrate migrated
  refine ⟨?_, ?_, ?_⟩
  · have inside : ledger.applied < migrations.length := (List.getElem?_eq_some_iff.mp next).1
    rw [applied]
    exact inside
  · intro none_
    rw [applied] at none_
    contradiction
  · rw [table]
    exact kept.holds.carryAll carried

/-- What an INSERT does that is not refused. -/
theorem of_insert {arbiter : List String} {bound : Cells ColumnValue}
    (inserted : ledger.insert now arbiter bound = some after) :
    arbiter ∈ ledger.table.unique ∧ ∃ added, ledger.table.insert ColumnValue.hasType arbiter
        ledger.rows (ledger.table.complete (ColumnDefault.evaluate now) bound) = .ok added ∧
      after = { ledger with rows := ledger.rows ++ added } := by
  unfold Versioned.insert at inserted
  split at inserted
  · rename_i known
    split at inserted
    · contradiction
    · rename_i added accepted
      exact ⟨of_decide_eq_true (Bool.and_eq_true_iff.mp known).1, added, accepted,
        (Option.some.inj inserted).symm⟩
  · contradiction

/-- An INSERT keeps what holds. -/
theorem Kept.insert (kept : ledger.Kept) {arbiter : List String} {bound : Cells ColumnValue}
    (inserted : ledger.insert now arbiter bound = some after) : after.Kept := by
  obtain ⟨isKey, added, accepted, rfl⟩ := of_insert inserted
  refine ⟨kept.applied, ?_, ?_, kept.holds.keyed,
    Table.insert_keeps kept.holds.satisfied accepted⟩
  · intro unapplied
    have unapplied : ledger.applied = 0 := unapplied
    rw [table, unapplied] at isKey
    contradiction
  · intro cells member
    rcases List.mem_append.mp member with old | new
    · exact kept.holds.shaped cells old
    · rw [Table.mem_of_insert accepted new]
      exact Table.shaped_complete ..

/-- A retention pass keeps what holds. -/
theorem Kept.delete (kept : ledger.Kept) (keeps : Cells ColumnValue → Bool) :
    Kept { ledger with rows := ledger.rows.filter keeps } where
  applied := kept.applied
  fresh unapplied := by
    show ledger.rows.filter keeps = []
    rw [kept.fresh unapplied, List.filter_nil]
  holds :=
    { shaped := fun cells member => kept.holds.shaped cells (List.mem_of_mem_filter member)
      keyed := kept.holds.keyed
      satisfied := kept.holds.satisfied.sublist List.filter_sublist }

/-- Every step keeps the ledger within its constraints. -/
theorem kept_step {action : Action} (kept : ledger.Kept)
    (stepped : ledger.step action = some after) : after.Kept := by
  cases action with
  | migrate now => exact kept.migrate stepped
  | insert now arbiter bound => exact kept.insert stepped
  | delete keeps =>
    obtain rfl := Option.some.inj stepped
    exact kept.delete keeps

/-- What holds, holds of every ledger reached. -/
theorem kept_of_reaches (reached : Reaches step anyStep start ledger) : ledger.Kept := by
  obtain ⟨actions, run⟩ := reached
  have keeps : ∀ before action later, Kept before → anyStep before action →
      step before action = some later → Kept later :=
    fun _ _ _ kept _ stepped => kept_step kept stepped
  exact run.invariant keeps ⟨Nat.zero_le 3, fun _ => rfl,
    ⟨fun _ member => by contradiction, fun _ isKey => by contradiction,
      fun _ member => by contradiction, fun _ isKey => by contradiction⟩⟩

/-! ## All migrations -/

/-- The migrations that have not been applied run to their end. -/
theorem migrations_run (kept : ledger.Kept) (now : DateTime) :
    ∃ later, ledger.runMigrations now = some later ∧ later.applied = 3 ∧ later.Kept ∧
      later.rows = ledger.rows.map (· ++ ledger.missing now) := by
  obtain ⟨pending, counted⟩ : ∃ pending, pending = 3 - ledger.applied := ⟨_, rfl⟩
  induction pending generalizing ledger with
  | zero =>
    have applied : ledger.applied = 3 := by
      have := kept.applied
      omega
    have none_ : migrations.drop ledger.applied = [] := by
      rw [applied]
      rfl
    exact ⟨ledger, by simp [runMigrations, none_], applied, kept, by simp [missing, none_]⟩
  | succ pending ih =>
    obtain ⟨after, migrated⟩ := migrates kept (by omega) now
    obtain ⟨statements, next, carried, applied, -⟩ := of_migrate migrated
    obtain ⟨later, ran, all, held, rows⟩ := ih (kept.migrate migrated) (by omega)
    have first : migrations.drop ledger.applied = statements :: migrations.drop after.applied := by
      rw [applied]
      exact (List.drop_eq_getElem_cons (List.getElem?_eq_some_iff.mp next).1).trans
        (congrArg (· :: _) (List.getElem?_eq_some_iff.mp next).2)
    refine ⟨later, ?_, all, held, ?_⟩
    · rw [runMigrations, first, List.foldlM_cons, migrated]
      exact ran
    · rw [rows, Table.carryAll_rows carried, List.map_map]
      simp [missing, first, Function.comp_def]

/-- There are no rows before the first migration. -/
theorem Kept.begun (kept : ledger.Kept) {cells : Cells ColumnValue}
    (member : cells ∈ ledger.rows) : 0 < ledger.applied := by
  by_contra none_
  rw [kept.fresh (by omega)] at member
  contradiction

/-- The columns that the first migration creates. -/
theorem Kept.has_key (kept : ledger.Kept) {cells : Cells ColumnValue}
    (member : cells ∈ ledger.rows) :
    ledger.table.has "id" = true ∧ ledger.table.has "command_id" = true := by
  have begun := kept.begun member
  have most := kept.applied
  rw [table]
  match ledger.applied, begun, most with
  | 1, _, _ => exact ⟨rfl, rfl⟩
  | 2, _, _ => exact ⟨rfl, rfl⟩
  | 3, _, _ => exact ⟨rfl, rfl⟩

/-- What a row holds in the columns it has, it holds with those of later migrations. -/
theorem Kept.at_migrated (kept : ledger.Kept) {cells : Cells ColumnValue}
    (member : cells ∈ ledger.rows) {name : String} (there : ledger.table.has name = true)
    (now : DateTime) : Cells.at_ (cells ++ ledger.missing now) name = cells.at_ name :=
  kept.holds.at_append member there _

/-- What it holds in a later column. -/
theorem Kept.at_missing (kept : ledger.Kept) {cells : Cells ColumnValue}
    (member : cells ∈ ledger.rows) {name : String} (new : ledger.table.has name = false)
    (now : DateTime) :
    Cells.at_ (cells ++ ledger.missing now) name = (ledger.missing now).at_ name := by
  apply Cells.at_append_new
  rw [kept.holds.shaped cells member, ← Table.has_iff, new]
  exact Bool.false_ne_true

/-- What the migrations make of a row's later columns. -/
theorem Kept.at_later (kept : ledger.Kept) {cells : Cells ColumnValue}
    (member : cells ∈ ledger.rows) (now : DateTime) :
    (ledger.applied = 1 → Cells.at_ (cells ++ ledger.missing now) "reason" =
      some (.text DeadLetterReason.storageRejected.asStr)) ∧
    (ledger.applied ≤ 2 → Cells.at_ (cells ++ ledger.missing now) "actor_kind" = none ∧
      Cells.at_ (cells ++ ledger.missing now) "actor_id" = none) := by
  have begun := kept.begun member
  constructor
  · intro first
    have new : ledger.table.has "reason" = false := by
      rw [table, first]
      rfl
    rw [kept.at_missing member new, missing, first]
    rfl
  · intro early
    have new : ledger.table.has "actor_kind" = false ∧ ledger.table.has "actor_id" = false := by
      obtain ⟨applied, rows⟩ := ledger
      match applied, begun, early with
      | 1, _, _ => exact ⟨rfl, rfl⟩
      | 2, _, _ => exact ⟨rfl, rfl⟩
    rw [kept.at_missing member new.1, kept.at_missing member new.2, missing]
    match ledger.applied, begun, early with
    | 1, _, _ => exact ⟨rfl, rfl⟩
    | 2, _, _ => exact ⟨rfl, rfl⟩

/-- The command of a row is that of the row migrated. -/
theorem Kept.recorded_migrated (kept : ledger.Kept) (now : DateTime) (commandId : Uuid) :
    recorded { applied := 3, rows := ledger.rows.map (· ++ ledger.missing now) } commandId =
      ledger.recorded commandId := by
  rw [recorded, recorded, List.any_map, Bool.eq_iff_iff, List.any_eq_true, List.any_eq_true]
  refine exists_congr fun cells => and_congr_right fun member => ?_
  rw [Function.comp_apply, kept.at_migrated member (kept.has_key member).2]

/-- With all migrations applied, the INSERT of `record_dead_letter` is not refused. -/
theorem insert_current (json : SerdeJson) {abandoned : Abandoned} {id : Uuid}
    (all : ledger.applied = 3) (code : ∀ code ∈ abandoned.sqlstate, storable code = true)
    (kind : storable abandoned.trace.actorKind = true)
    (new : ∀ cells ∈ ledger.rows, cells.at_ "id" ≠ some (.uuid id)) :
    ledger.insert now ["command_id"] (abandoned.bound json id) = some { ledger with
      rows := ledger.rows ++ if ledger.recorded abandoned.trace.commandId then []
        else [(DeadLetter.of id now abandoned).cells json] } := by
  obtain ⟨applied, rows⟩ := ledger
  subst all
  have isTable : table { applied := 3, rows := rows } = deadLetters := rfl
  have known : knows { applied := 3, rows := rows } ["command_id"]
      (abandoned.bound json id) = true := rfl
  have admits :
      deadLetters.Admits ColumnValue.hasType ((DeadLetter.of id now abandoned).cells json) :=
    admits_cells (storable_asStr abandoned.reason) kind code
  have conflict :
      rows.any (Table.agree ["command_id"] ((DeadLetter.of id now abandoned).cells json)) =
        recorded { applied := 3, rows := rows } abandoned.trace.commandId :=
    congrArg rows.any (funext (Table.agree_singleton rfl))
  have free : ∀ key ∈ deadLetters.unique,
      rows.any (Table.agree key ((DeadLetter.of id now abandoned).cells json)) = true →
        rows.any (Table.agree ["command_id"] ((DeadLetter.of id now abandoned).cells json)) =
          true := by
    refine List.forall_mem_cons.mpr ⟨?_, List.forall_mem_singleton.mpr fun taken => taken⟩
    intro taken
    obtain ⟨row, member, alike⟩ := List.any_eq_true.mp taken
    have value : Cells.at_ ((DeadLetter.of id now abandoned).cells json) "id" =
        some (.uuid id) := rfl
    rw [Table.agree_singleton value, beq_iff_eq] at alike
    exact absurd alike (new row member)
  rw [insert, if_pos known, isTable, complete_bound, Table.insert_admitted admits free, conflict]

/-- What the last migration makes of a ledger. -/
theorem migrate_last (rows : List (Cells ColumnValue)) (now : DateTime) :
    migrate now { applied := 2, rows := rows } = some {
      applied := 3
      rows := rows.map (· ++ migration0004.flatMap (Ddl.extension (ColumnDefault.evaluate now)))
    } := by
  have harmless : Table.harmless ColumnValue.hasType (ColumnDefault.evaluate now)
      (table { applied := 2, rows := rows }) migration0004 = true := rfl
  obtain ⟨later, carried⟩ := Table.carriesAll_of_harmless harmless rows
  have next : migrations[2]? = some migration0004 := rfl
  simp only [migrate, next, carried]
  rw [Table.carryAll_rows carried]

/-- Whether an INSERT that knows nothing of the last migration takes effect before or after it
makes no difference. -/
theorem insert_migrate (kept : ledger.Kept) (early : ledger.applied = 2) {arbiter : List String}
    {bound : Cells ColumnValue} (known : ledger.knows arbiter bound = true) (at_ : DateTime) :
    (ledger.insert at_ arbiter bound).bind (migrate now) =
      (ledger.migrate now).bind (insert at_ arbiter bound) := by
  obtain ⟨applied, rows⟩ := ledger
  subst early
  obtain ⟨isKey, binds⟩ := Bool.and_eq_true_iff.mp known
  rw [List.all_eq_true] at binds
  have unbound : ∀ name, (table { applied := 2, rows := rows }).has name = false →
      bound.lookup name = none := by
    intro name absent
    rw [List.lookup_eq_none_iff]
    intro cell member
    rw [bne_iff_ne]
    rintro rfl
    exact absurd (binds cell member) (by rw [absent]; exact Bool.false_ne_true)
  have same : ∀ instant, migration0004.flatMap (Ddl.extension (ColumnDefault.evaluate instant)) =
      migration0004.flatMap (Ddl.extension (ColumnDefault.evaluate at_)) := fun _ => rfl
  have harmless : Table.harmless ColumnValue.hasType (ColumnDefault.evaluate at_)
      (table { applied := 2, rows := rows }) migration0004 = true := rfl
  have adds : ∀ statement ∈ migration0004, ∃ column, statement = .addColumn column ∧
      bound.lookup column.name = none :=
    List.forall_mem_cons.mpr ⟨⟨_, rfl, unbound "actor_kind" rfl⟩,
      List.forall_mem_singleton.mpr ⟨_, rfl, unbound "actor_id" rfl⟩⟩
  have commutes :=
    kept.holds.insert_carryAll harmless adds (kept.holds.keyed arbiter (of_decide_eq_true isKey))
  have knownLater : ∀ later, knows { applied := 3, rows := later } arbiter bound = true := by
    intro later
    refine Bool.and_eq_true_iff.mpr ⟨isKey, List.all_eq_true.mpr fun cell member => ?_⟩
    have columns : (table { applied := 3, rows := later }).columns =
        (table { applied := 2, rows := rows }).columns ++
          [⟨"actor_kind", .text, false, none⟩, ⟨"actor_id", .uuid, false, none⟩] := rfl
    rw [Table.has, columns, List.any_append, Bool.or_eq_true]
    exact Or.inl (binds cell member)
  have isAlter : ∀ later, table { applied := 3, rows := later } =
      (table { applied := 2, rows := rows }).alterAll migration0004 := fun _ => rfl
  rw [migrate_last, Option.bind_some, insert, if_pos known, insert, if_pos (knownLater _), isAlter,
    same now, commutes]
  cases (table { applied := 2, rows := rows }).insert ColumnValue.hasType arbiter rows
      ((table { applied := 2, rows := rows }).complete (ColumnDefault.evaluate at_) bound) with
  | error refusal => rfl
  | ok added =>
    show migrate now { applied := 2, rows := rows ++ added } = _
    rw [migrate_last, same now, List.map_append]
    rfl

/-- A step other than a retention pass leaves every row where it is, with what it holds. -/
theorem rows_step {action : Action} (keeps : action.isDelete = false)
    (stepped : ledger.step action = some after) :
    ∃ more, ledger.rows.map (· ++ more) <+: after.rows := by
  cases action with
  | migrate now =>
    obtain ⟨statements, -, carried, -, -⟩ := of_migrate stepped
    rw [Table.carryAll_rows carried]
    exact ⟨_, List.prefix_refl _⟩
  | insert now arbiter bound =>
    obtain ⟨-, added, -, rfl⟩ := of_insert stepped
    refine ⟨[], ?_⟩
    simp only [List.append_nil, List.map_id']
    exact List.prefix_append ..
  | delete keeps => contradiction

/-- No migration or INSERT of a run takes a row away; each is carried with further columns. -/
theorem rows_run {actions : List Action}
    (run : Steps step (fun _ action => action.isDelete = false) ledger actions after) :
    ∃ more, ledger.rows.map (· ++ more) <+: after.rows := by
  have keeps : ∀ before action later, (∃ more, ledger.rows.map (· ++ more) <+: before.rows) →
      action.isDelete = false → step before action = some later →
        ∃ more, ledger.rows.map (· ++ more) <+: later.rows := by
    rintro before action later ⟨more, held⟩ keeps stepped
    obtain ⟨further, holds⟩ := rows_step keeps stepped
    refine ⟨more ++ further, List.IsPrefix.trans ?_ holds⟩
    have both := held.map (· ++ further)
    rw [List.map_map] at both
    simpa only [Function.comp_def, List.append_assoc] using both
  exact run.invariant keeps ⟨[], by simp⟩

end Versioned

open Versioned in
/-- Whatever the replicas of all versions have written when a process starts, the migrations run
to their end, every row keeps what it holds, and the service's INSERT then adds a row for a
command that has none. -/
theorem migrations_carry_the_ledger (json : SerdeJson) (ledger : Versioned)
    (reached : Reaches Versioned.step anyStep .start ledger) (now : DateTime) :
    ledger.table.Satisfied ColumnValue.hasType ledger.rows ∧
    (∀ actions after, Steps Versioned.step (fun _ action => action.isDelete = false) ledger actions
      after → ∃ more, ledger.rows.map (· ++ more) <+: after.rows ∧
        ∀ cells ∈ ledger.rows, ∀ name, ledger.table.has name = true →
          Cells.at_ (cells ++ more) name = cells.at_ name) ∧
    (∃ later, ledger.runMigrations now = some later ∧ later.table = deadLetters ∧
      later.rows = ledger.rows.map (· ++ ledger.missing now) ∧
      (∀ cells ∈ ledger.rows,
        (ledger.applied = 1 → Cells.at_ (cells ++ ledger.missing now) "reason" =
          some (.text DeadLetterReason.storageRejected.asStr)) ∧
        (ledger.applied ≤ 2 → Cells.at_ (cells ++ ledger.missing now) "actor_kind" = none ∧
          Cells.at_ (cells ++ ledger.missing now) "actor_id" = none)) ∧
      ∀ envelope abandoned id instant, abandoned.trace = .of envelope →
        (∀ code ∈ abandoned.sqlstate, storable code = true) →
        (∀ cells ∈ ledger.rows, cells.at_ "id" ≠ some (.uuid id)) →
          later.insert instant ["command_id"] (abandoned.bound json id) = some { later with
            rows := later.rows ++ if ledger.recorded envelope.commandId then []
              else [(DeadLetter.of id instant abandoned).cells json] }) ∧
    ∀ arbiter bound instant, ledger.applied = 2 → ledger.knows arbiter bound = true →
      (ledger.insert instant arbiter bound).bind (migrate now) =
        (ledger.migrate now).bind (insert instant arbiter bound) := by
  have kept := kept_of_reaches reached
  refine ⟨kept.holds.satisfied, ?_, ?_, ?_⟩
  · intro actions after run
    obtain ⟨more, held⟩ := rows_run run
    exact ⟨more, held, fun cells member name there => kept.holds.at_append member there more⟩
  · obtain ⟨later, ran, all, keptLater, rows⟩ := migrations_run kept now
    refine ⟨later, ran, ?_, rows, fun cells member => kept.at_later member now, ?_⟩
    · rw [table, all]
      rfl
    · intro envelope abandoned id instant trace code new
      have isLater :
          later = { applied := 3, rows := ledger.rows.map (· ++ ledger.missing now) } := by
        rw [← all, ← rows]
      have kind : storable abandoned.trace.actorKind = true := by
        rw [trace]
        exact storable_actorKind envelope.actor
      have fresh : ∀ cells ∈ later.rows, cells.at_ "id" ≠ some (.uuid id) := by
        intro cells member
        rw [rows] at member
        obtain ⟨old, isOld, rfl⟩ := List.mem_map.mp member
        rw [kept.at_migrated isOld (kept.has_key isOld).1]
        exact new old isOld
      rw [insert_current json all code kind fresh]
      have same :
          later.recorded abandoned.trace.commandId = ledger.recorded envelope.commandId := by
        rw [isLater, kept.recorded_migrated now, trace]
        rfl
      rw [same]
  · intro arbiter bound instant early known
    exact insert_migrate kept early known instant

/-- What the INSERT of the first version binds. -/
def sampleFirstVersion : Cells ColumnValue :=
  [("id", some (.uuid (sampleId 7))), ("command_id", some (.uuid sampleEnvelope.commandId)),
    ("source_event_id", some (.uuid (sampleId 2))), ("recipient_ids", some (.uuids [])),
    ("command", some (.bytes [])), ("sqlstate", some (.text "22001")),
    ("correlation_id", some (.uuid sampleEnvelope.correlationId)), ("causation_id", none)]

/-- A ledger that the first version has written to. -/
def sampleVersioned : Versioned :=
  (play Versioned.step .start
    [.migrate ⟨0⟩, .insert ⟨0⟩ ["command_id"] sampleFirstVersion]).get (by decide)

/-- What the service makes of the same command. -/
def sampleAbandonedAgain : Abandoned :=
  { trace := .of sampleEnvelope, reason := .storageRejected, detail := "", sqlstate := none,
    sourceEventId := none, recipientIds := [], command := sampleKeyed, deliveredCount := none }

/-- The row's reason is filled in, and its command gets no second row. -/
theorem migrations_carry_the_ledger_sample :
    ∃ later, sampleVersioned.runMigrations ⟨0⟩ = some later ∧ later.rows.length = 1 ∧
      later.insert ⟨0⟩ ["command_id"] (sampleAbandonedAgain.bound sampleJson (sampleId 8)) =
        some { later with rows := later.rows ++ [] } := by
  have played : play Versioned.step .start
      [.migrate ⟨0⟩, .insert ⟨0⟩ ["command_id"] sampleFirstVersion] = some sampleVersioned := rfl
  have reached : Reaches Versioned.step anyStep .start sampleVersioned := ⟨_, steps_of_play played⟩
  obtain ⟨-, -, ⟨later, ran, -, rows, -, inserts⟩, -⟩ :=
    migrations_carry_the_ledger sampleJson sampleVersioned reached ⟨0⟩
  refine ⟨later, ran, ?_, ?_⟩
  · rw [rows]
    rfl
  · exact inserts sampleEnvelope sampleAbandonedAgain (sampleId 8) ⟨0⟩ rfl
      (fun code present => by contradiction) (by decide)

end SvcNotifier
