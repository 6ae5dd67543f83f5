import SvcNotifier.Library.Runs

/-!
# A table behind grants and row policies

What a statement does to a table is done row by row: rows are inserted, changed and deleted. A
connection may do so as far as its role was granted to, on rows that its policies let it reach
and with rows that they let it leave behind. Whatever statements run, the table is then confined
by what no connection of a run may do; and a statement that is within its grants is not refused.
-/

namespace Library

/-- What may be granted on a table. -/
inductive Privilege where
  /-- Rows may be read. -/
  | select
  /-- Rows may be added. -/
  | insert
  /-- Rows may be changed. -/
  | update
  /-- Rows may be removed. -/
  | delete
  deriving DecidableEq, Repr

/-- Who may do what on a table. -/
structure Access (ι ρ : Type) where
  /-- The privileges. -/
  granted : ι → Privilege → Bool
  /-- `USING`: the rows that are reached. -/
  reaches : ι → ρ → Bool
  /-- `WITH CHECK`: the rows that may be left behind. -/
  leaves : ι → ρ → Bool

/-- What a statement does to one row. -/
inductive RowAct (ρ : Type) where
  /-- A row is added. -/
  | insert (row : ρ)
  /-- A row is put in the place of another. -/
  | update (index : Nat) (row : ρ)
  /-- A row is removed. -/
  | delete (index : Nat)

namespace Access

variable {ι ρ : Type} (access : Access ι ρ)

/-- The table after an act, unless the act is refused. -/
def act (rows : List ρ) : ι × RowAct ρ → Option (List ρ)
  | (who, .insert row) =>
    if access.granted who .insert && access.leaves who row then some (rows ++ [row]) else none
  | (who, .update index row) => match rows[index]? with
    | none => none
    | some before =>
      if access.granted who .update && access.reaches who before && access.leaves who row then
        some (rows.set index row)
      else none
  | (who, .delete index) => match rows[index]? with
    | none => none
    | some before =>
      if access.granted who .delete && access.reaches who before then some (rows.eraseIdx index)
      else none

/-- A connection reaches no row of a part of the table, and leaves none there. -/
def Clear (part : ρ → Bool) (who : ι) : Prop :=
  ∀ row, part row = true → access.reaches who row = false ∧ access.leaves who row = false

/-- A connection changes no row and deletes none. -/
def AddsOnly (who : ι) : Prop :=
  access.granted who .update = false ∧ access.granted who .delete = false

/-- A connection inserts no row, and brings none into the part. -/
def BringsNone (part : ρ → Bool) (who : ι) : Prop :=
  access.granted who .insert = false ∧ ∀ before row, access.reaches who before = true →
    access.leaves who row = true → part row = true → part before = true

/-- A connection changes no row where it is. -/
def ChangesNone (who : ι) : Prop := access.granted who .update = false

variable {access} {part : ρ → Bool} {who : ι} {rows later : List ρ}

/-- What an act that is not refused does. -/
inductive Acted (access : Access ι ρ) (rows : List ρ) (who : ι) : RowAct ρ → List ρ → Prop where
  /-- The row was allowed, and is at the end. -/
  | insert {row : ρ} (granted : access.granted who .insert = true)
      (leaves : access.leaves who row = true) :
      Acted access rows who (.insert row) (rows ++ [row])
  /-- The row that was there was reached, and the new one allowed. -/
  | update {index : Nat} {before row : ρ} (there : rows[index]? = some before)
      (granted : access.granted who .update = true) (reaches : access.reaches who before = true)
      (leaves : access.leaves who row = true) :
      Acted access rows who (.update index row) (rows.set index row)
  /-- The row that was there was reached. -/
  | delete {index : Nat} {before : ρ} (there : rows[index]? = some before)
      (granted : access.granted who .delete = true) (reaches : access.reaches who before = true) :
      Acted access rows who (.delete index) (rows.eraseIdx index)

/-- An act that is done was granted, and the policies let it pass. -/
theorem acted_of_act {rowAct : RowAct ρ} (done : access.act rows (who, rowAct) = some later) :
    Acted access rows who rowAct later := by
  cases rowAct with
  | insert row =>
    simp only [act] at done
    split at done
    · rename_i allowed
      obtain ⟨granted, leaves⟩ := Bool.and_eq_true_iff.mp allowed
      obtain rfl := Option.some.inj done
      exact .insert granted leaves
    · contradiction
  | update index row =>
    simp only [act] at done
    split at done
    · contradiction
    · rename_i before there
      split at done
      · rename_i allowed
        obtain ⟨reached, leaves⟩ := Bool.and_eq_true_iff.mp allowed
        obtain ⟨granted, reaches⟩ := Bool.and_eq_true_iff.mp reached
        obtain rfl := Option.some.inj done
        exact .update there granted reaches leaves
      · contradiction
  | delete index =>
    simp only [act] at done
    split at done
    · contradiction
    · rename_i before there
      split at done
      · rename_i allowed
        obtain ⟨granted, reaches⟩ := Bool.and_eq_true_iff.mp allowed
        obtain rfl := Option.some.inj done
        exact .delete there granted reaches
      · contradiction

/-! ## Statements, row by row -/

/-- The acts of one connection. -/
def By (who : ι) : List ρ → ι × RowAct ρ → Prop := fun _ act => act.1 = who

/-- One more act at the start. -/
theorem reaches_next {rowAct : RowAct ρ} {middle : List ρ}
    (done : access.act rows (who, rowAct) = some middle)
    (rest : Reaches access.act (By who) middle later) :
    Reaches access.act (By who) rows later := by
  obtain ⟨acts, run⟩ := rest
  exact ⟨(who, rowAct) :: acts, .next rfl done run⟩

/-- An INSERT adds its rows one by one. -/
theorem reaches_inserts (granted : access.granted who .insert = true) (new : List ρ)
    (leaves : ∀ row ∈ new, access.leaves who row = true) :
    Reaches access.act (By who) rows (rows ++ new) := by
  induction new generalizing rows with
  | nil =>
    rw [List.append_nil]
    exact Reaches.refl _
  | cons row new ih =>
    have first : access.act rows (who, .insert row) = some (rows ++ [row]) := by
      simp [act, granted, leaves row List.mem_cons_self]
    have rest : Reaches access.act (By who) (rows ++ [row]) ((rows ++ [row]) ++ new) :=
      ih fun row member => leaves row (List.mem_cons_of_mem _ member)
    rw [List.append_cons]
    exact reaches_next first rest

/-- An UPDATE replaces the rows that it selects one by one. -/
theorem reaches_updates (granted : access.granted who .update = true) (selects : ρ → Prop)
    [DecidablePred selects] (new : ρ → ρ)
    (able : ∀ row ∈ rows, selects row →
      access.reaches who row = true ∧ access.leaves who (new row) = true) :
    Reaches access.act (By who) rows
      (rows.map fun row => if selects row then new row else row) := by
  suffices visits : ∀ done, Reaches access.act (By who) (done ++ rows)
      (done ++ rows.map fun row => if selects row then new row else row) from visits []
  induction rows with
  | nil => exact fun done => Reaches.refl _
  | cons row rows ih =>
    intro done
    have others := ih (fun row member => able row (List.mem_cons_of_mem _ member))
    by_cases selected : selects row
    · obtain ⟨reaches, leaves⟩ := able row List.mem_cons_self selected
      have first : access.act (done ++ row :: rows) (who, .update done.length (new row)) =
          some (done ++ new row :: rows) := by
        simp [act, granted, reaches, leaves]
      rw [List.append_cons done (new row)] at first
      rw [List.map_cons, if_pos selected, List.append_cons done (new row)]
      exact reaches_next first (others (done ++ [new row]))
    · rw [List.map_cons, if_neg selected, List.append_cons done row rows,
        List.append_cons done row (rows.map _)]
      exact others (done ++ [row])

/-- A DELETE removes the rows that it selects one by one. -/
theorem reaches_deletes (granted : access.granted who .delete = true) (keeps : ρ → Bool)
    (reaches : ∀ row ∈ rows, keeps row = false → access.reaches who row = true) :
    Reaches access.act (By who) rows (rows.filter keeps) := by
  suffices visits : ∀ done, Reaches access.act (By who) (done ++ rows)
      (done ++ rows.filter keeps) from visits []
  induction rows with
  | nil => exact fun done => Reaches.refl _
  | cons row rows ih =>
    intro done
    have others := ih (fun row member => reaches row (List.mem_cons_of_mem _ member))
    cases kept : keeps row with
    | true =>
      rw [List.filter_cons_of_pos kept, List.append_cons done row rows,
        List.append_cons done row (rows.filter keeps)]
      exact others (done ++ [row])
    | false =>
      have first : access.act (done ++ row :: rows) (who, .delete done.length) =
          some (done ++ rows) := by
        have removed : (done ++ row :: rows).eraseIdx done.length = done ++ rows := by
          rw [List.eraseIdx_append_of_length_le (Nat.le_refl _), Nat.sub_self]
          rfl
        simp [act, granted, reaches row List.mem_cons_self kept, removed]
      rw [List.filter_cons_of_neg (by simp [kept])]
      exact reaches_next first (others done)

/-! ## What one act leaves of a part -/

/-- A row outside the part is replaced by another. -/
theorem filter_set {index : Nat} {before row : ρ} (there : rows[index]? = some before)
    (was : part before = false) (is : part row = false) :
    (rows.set index row).filter part = rows.filter part := by
  induction rows generalizing index with
  | nil => rfl
  | cons first rest ih =>
    cases index with
    | zero =>
      obtain rfl := Option.some.inj there
      simp [was, is]
    | succ index => simp only [List.set_cons_succ, List.filter_cons, ih there]

/-- A row outside the part is removed. -/
theorem filter_eraseIdx {index : Nat} {before : ρ} (there : rows[index]? = some before)
    (was : part before = false) : (rows.eraseIdx index).filter part = rows.filter part := by
  induction rows generalizing index with
  | nil => rfl
  | cons first rest ih =>
    cases index with
    | zero =>
      obtain rfl := Option.some.inj there
      simp [was]
    | succ index => simp only [List.eraseIdx_cons_succ, List.filter_cons, ih there]

/-- A connection that reaches nothing of the part and leaves nothing there does not touch it. -/
theorem act_clear {rowAct : RowAct ρ} (clear : access.Clear part who)
    (done : access.act rows (who, rowAct) = some later) :
    later.filter part = rows.filter part := by
  have outside : ∀ row, access.reaches who row = true ∨ access.leaves who row = true →
      part row = false := by
    intro row able
    cases inside : part row with
    | false => rfl
    | true =>
      obtain ⟨reaches, leaves⟩ := clear row inside
      rw [reaches, leaves] at able
      rcases able with able | able <;> contradiction
  cases acted_of_act done with
  | @insert row granted leaves =>
    simp [List.filter_append, outside row (Or.inr leaves)]
  | update there granted reaches leaves =>
    exact filter_set there (outside _ (Or.inl reaches)) (outside _ (Or.inr leaves))
  | delete there granted reaches => exact filter_eraseIdx there (outside _ (Or.inl reaches))

/-- A connection that neither changes nor deletes only adds. -/
theorem act_adds {rowAct : RowAct ρ} (adds : access.AddsOnly who)
    (done : access.act rows (who, rowAct) = some later) : rows <+: later := by
  cases acted_of_act done with
  | insert => exact List.prefix_append ..
  | update there granted =>
    rw [adds.1] at granted
    contradiction
  | delete there granted =>
    rw [adds.2] at granted
    contradiction

/-- Replacing a row by one that is in the part only if that was leaves no more there. -/
theorem length_filter_set {index : Nat} {before row : ρ} (there : rows[index]? = some before)
    (brings : part row = true → part before = true) :
    ((rows.set index row).filter part).length ≤ (rows.filter part).length := by
  induction rows generalizing index with
  | nil => exact Nat.le_refl _
  | cons first rest ih =>
    cases index with
    | zero =>
      obtain rfl := Option.some.inj there
      rw [List.set_cons_zero, List.filter_cons, List.filter_cons]
      by_cases inside : part row = true
      · rw [if_pos inside, if_pos (brings inside)]
        exact Nat.le_refl _
      · rw [if_neg inside]
        split
        · exact Nat.le_succ _
        · exact Nat.le_refl _
    | succ index =>
      have others := ih there
      rw [List.set_cons_succ, List.filter_cons, List.filter_cons]
      split
      · exact Nat.succ_le_succ others
      · exact others

/-- A connection that brings nothing into the part leaves no more there than there was. -/
theorem act_brings {rowAct : RowAct ρ} (brings : access.BringsNone part who)
    (done : access.act rows (who, rowAct) = some later) :
    (later.filter part).length ≤ (rows.filter part).length := by
  cases acted_of_act done with
  | insert granted =>
    rw [brings.1] at granted
    contradiction
  | update there granted reaches leaves =>
    exact length_filter_set there (brings.2 _ _ reaches leaves)
  | delete there granted reaches =>
    exact ((List.eraseIdx_sublist ..).filter part).length_le

/-! ## What whole runs leave -/

variable {acts : List (ι × RowAct ρ)}

/-- Nothing is touched in a part that no connection of the run reaches. -/
theorem run_clear (run : Steps access.act (fun _ act => access.Clear part act.1) rows acts later) :
    later.filter part = rows.filter part := by
  have keeps : ∀ before act after, before.filter part = rows.filter part →
      access.Clear part act.1 → access.act before act = some after →
        after.filter part = rows.filter part :=
    fun _ _ _ kept clear done => (act_clear clear done).trans kept
  exact run.invariant keeps rfl

/-- What is there stays, in its order, if the connections that reach the part only add. -/
theorem run_adds (run : Steps access.act
    (fun _ act => access.Clear part act.1 ∨ access.AddsOnly act.1) rows acts later) :
    rows.filter part <+: later.filter part := by
  have keeps : ∀ before act after, rows.filter part <+: before.filter part →
      access.Clear part act.1 ∨ access.AddsOnly act.1 → access.act before act = some after →
        rows.filter part <+: after.filter part := by
    intro before act after kept allowed done
    rcases allowed with clear | adds
    · rw [act_clear clear done]
      exact kept
    · exact kept.trans ((act_adds adds done).filter part)
  exact run.invariant keeps (List.prefix_refl _)

/-- The part does not grow if no connection of the run brings anything there. -/
theorem run_brings
    (run : Steps access.act (fun _ act => access.BringsNone part act.1) rows acts later) :
    (later.filter part).length ≤ (rows.filter part).length := by
  have keeps : ∀ before act after, (before.filter part).length ≤ (rows.filter part).length →
      access.BringsNone part act.1 → access.act before act = some after →
        (after.filter part).length ≤ (rows.filter part).length :=
    fun _ _ _ kept brings done => Nat.le_trans (act_brings brings done) kept
  exact run.invariant keeps (Nat.le_refl _)

/-- What ran was granted. -/
theorem run_granted {guard : List ρ → ι × RowAct ρ → Prop}
    (run : Steps access.act guard rows acts later) :
    ∀ act ∈ acts, ∃ privilege, access.granted act.1 privilege = true := by
  induction run with
  | refl rows =>
    intro act member
    contradiction
  | @next before after later first rest met done run ih =>
    intro act member
    rcases List.mem_cons.mp member with rfl | others
    · obtain ⟨who, rowAct⟩ := act
      cases acted_of_act done with
      | insert granted leaves => exact ⟨.insert, granted⟩
      | update there granted reaches leaves => exact ⟨.update, granted⟩
      | delete there granted reaches => exact ⟨.delete, granted⟩
    · exact ih act others

/-- Every row was there or has been inserted, as it is, if no connection of the run changes
rows. -/
theorem run_changes
    (run : Steps access.act (fun _ act => access.ChangesNone act.1) rows acts later) :
    ∀ row ∈ later, row ∈ rows ∨ ∃ who, (who, RowAct.insert row) ∈ acts := by
  have keeps : ∀ (before : List (ι × RowAct ρ)) (middle : List ρ) act after,
      (∀ row ∈ middle, row ∈ rows ∨ ∃ who, (who, RowAct.insert row) ∈ before) →
      access.ChangesNone act.1 → access.act middle act = some after →
        ∀ row ∈ after, row ∈ rows ∨ ∃ who, (who, RowAct.insert row) ∈ before ++ [act] := by
    intro before middle act after kept changes done row member
    have earlier : row ∈ middle →
        row ∈ rows ∨ ∃ who, (who, RowAct.insert row) ∈ before ++ [act] := by
      intro there
      rcases kept row there with old | ⟨who, inserted⟩
      · exact Or.inl old
      · exact Or.inr ⟨who, List.mem_append_left _ inserted⟩
    obtain ⟨who, rowAct⟩ := act
    cases acted_of_act done with
    | @insert new granted leaves =>
      rcases List.mem_append.mp member with there | last
      · exact earlier there
      · rw [List.mem_singleton.mp last]
        exact Or.inr ⟨who, List.mem_append_right _ List.mem_cons_self⟩
    | update there granted =>
      rw [ChangesNone] at changes
      rw [changes] at granted
      contradiction
    | delete there granted reaches => exact earlier (List.mem_of_mem_eraseIdx member)
  exact run.traced keeps fun row member => Or.inl member

end Access

end Library
