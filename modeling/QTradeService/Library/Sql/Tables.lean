import Mathlib.Data.List.Basic
import Mathlib.Data.List.Nodup
import Mathlib.Data.Option.Basic
import QTradeService.Library.Sql.Reader

set_option relaxedAutoImplicit false
set_option autoImplicit false

/-!
# What statements do to tables

The meaning of the statements of `Sql.Statement` on tables of rows, under the primary keys of a
schema, and a session that gathers statements into a transaction.

## Main definitions

* `Sql.Schema`, `Sql.Store` — the declared tables, and their rows under their primary keys.
* `Sql.Statement.change`, `Sql.Store.exec` — what a statement does to its table; a statement that
  would break a primary key is refused.
* `Sql.Store.replay` — what several statements do in a row.
* `Sql.Session` — the committed rows and those of an open transaction.

## Main results

* `Sql.Store.exec_eq_some` — the rows after a statement that was accepted.
-/

namespace Sql

/-! ## Schemas -/

/-- What a schema says about a table. No column may be null. -/
structure TableSchema where
  columns : List String
  /-- The columns that hold integers; the others hold text. -/
  integers : List String
  primaryKey : List String

/-- The declared tables by name. -/
abbrev Schema := String → Option TableSchema

/-- A row: the text in each column. -/
abbrev Row := String → Option String

/-- The part of a row that the primary key makes unique. -/
def TableSchema.keyOf (table : TableSchema) (row : Row) : List (Option String) :=
  table.primaryKey.map row

/-- The values fit their columns: the columns exist, none is named twice, and an integer column
is given the text of an integer. -/
structure TableSchema.Fits (table : TableSchema) (values : List (String × String)) : Prop where
  known : ∀ value ∈ values, value.1 ∈ table.columns
  distinct : (values.map Prod.fst).Nodup
  integer : ∀ value ∈ values, value.1 ∈ table.integers → ∃ n : Int, value.2 = toString n

/-- Fewer values fit as well. -/
lemma TableSchema.Fits.sublist {table : TableSchema} {values values' : List (String × String)}
    (h : table.Fits values) (hsub : values'.Sublist values) : table.Fits values' where
  known value hvalue := h.known value (hsub.subset hvalue)
  distinct := h.distinct.sublist (hsub.map Prod.fst)
  integer value hvalue := h.integer value (hsub.subset hvalue)

/-- The names of the tables and columns are words, so that they can stand in a statement. -/
def Schema.Wordy (schema : Schema) : Prop :=
  ∀ name, ∀ table ∈ schema name, IsWord name ∧ ∀ column ∈ table.columns, IsWord column

/-! ## Statements -/

/-- The table of a statement. -/
def Statement.table : Statement → String
  | .insert table _ => table
  | .update table _ _ => table
  | .delete table _ => table
  | .select table _ => table
  | .count _ table _ => table

/-- The statement changes rows, or fails; the others answer with rows. -/
def Statement.IsWrite : Statement → Prop
  | .insert .. | .update .. | .delete .. => True
  | .select .. | .count .. => False

/-- The statement is a correct one on the declared tables: it names columns of its table, gives
each column at most one value, and gives an inserted row a value for every column. -/
def Schema.Admits (schema : Schema) (statement : Statement) : Prop :=
  ∃ table ∈ schema statement.table,
    match statement with
    | .insert _ values => table.Fits values ∧ ∀ column ∈ table.columns, column ∈ values.map Prod.fst
    | .update _ assignments conditions => table.Fits assignments ∧ table.Fits conditions
    | .delete _ conditions | .select _ conditions | .count _ _ conditions => table.Fits conditions

/-- The row satisfies all equations. -/
def Row.satisfies (row : Row) (conditions : List (String × String)) : Bool :=
  conditions.all fun condition => row condition.1 == some condition.2

/-- The row with new values in some columns. -/
def Row.assign (row : Row) (assignments : List (String × String)) : Row :=
  fun column => (assignments.lookup column).or (row column)

/-- The value of a column, if no column has two. -/
lemma lookup_eq_some_iff_mem {values : List (String × String)}
    (hdistinct : (values.map Prod.fst).Nodup) {column value : String} :
    values.lookup column = some value ↔ (column, value) ∈ values := by
  rw [List.lookup_eq_some_iff]
  constructor
  · rintro ⟨before, after, rfl, -⟩
    exact List.mem_append_right _ List.mem_cons_self
  · intro hmem
    obtain ⟨before, after, rfl⟩ := List.append_of_mem hmem
    refine ⟨before, after, rfl, fun earlier hearlier => bne_iff_ne.mpr fun hcolumn => ?_⟩
    rw [List.map_append, List.nodup_append'] at hdistinct
    exact hdistinct.2.2 (List.mem_map_of_mem hearlier) (hcolumn ▸ List.mem_cons_self)

/-- Only values that a row has already leave it as it was.

**Proof sketch.** No column has two values, so a value in the list is the one that is looked up. -/
lemma Row.assign_eq_self {row : Row} {values : List (String × String)}
    (hdistinct : (values.map Prod.fst).Nodup) :
    row.assign values = row ↔ row.satisfies values = true := by
  simp only [Row.satisfies, List.all_eq_true, beq_iff_eq]
  constructor
  · intro h value hvalue
    have hcolumn := congrFun h value.1
    rw [Row.assign, (lookup_eq_some_iff_mem hdistinct).mpr hvalue, Option.some_or] at hcolumn
    exact hcolumn.symm
  · intro h
    funext column
    rw [Row.assign]
    cases hvalue : values.lookup column with
    | none => rfl
    | some value => exact (h _ ((lookup_eq_some_iff_mem hdistinct).mp hvalue)).symm

/-- The row that has just these values. -/
def Row.ofValues (values : List (String × String)) : Row :=
  fun column => values.lookup column

/-- The rows of the table after the statement. -/
def Statement.change (statement : Statement) (rows : List Row) : List Row :=
  match statement with
  | .insert _ values => rows ++ [Row.ofValues values]
  | .update _ assignments conditions =>
    rows.map fun row => if row.satisfies conditions then row.assign assignments else row
  | .delete _ conditions => rows.filter fun row => !row.satisfies conditions
  | .select .. | .count .. => rows

/-- The number of rows that the statement is about. -/
def Statement.affected (statement : Statement) (rows : List Row) : Nat :=
  match statement with
  | .insert _ _ => 1
  | .update _ _ conditions | .delete _ conditions | .select _ conditions
  | .count _ _ conditions => rows.countP fun row => row.satisfies conditions

/-! ## Stores -/

/-- Rows for every table of a schema, no two of a table with the same primary key. -/
structure Store (schema : Schema) where
  rows : String → List Row
  keyed : ∀ name, ∀ table ∈ schema name, ((rows name).map table.keyOf).Nodup

variable {schema : Schema}

/-- A store without rows. -/
def Store.empty : Store schema where
  rows _ := []
  keyed _ _ _ := List.nodup_nil

/-- Give a table new rows. Rows that break the primary key are refused. -/
def Store.write (store : Store schema) (name : String) (rows : List Row) : Option (Store schema) :=
  if h : ∀ table ∈ schema name, (rows.map table.keyOf).Nodup then
    some
      { rows := fun name' => if name' = name then rows else store.rows name'
        keyed := fun name' table htable => by
          split
          · next heq => exact h table (heq ▸ htable)
          · exact store.keyed name' table htable }
  else none

/-- The store after the statement, if the statement is accepted. -/
def Store.exec (store : Store schema) (statement : Statement) : Option (Store schema) :=
  store.write statement.table (statement.change (store.rows statement.table))

/-- The store after the statements, if all of them are accepted. -/
def Store.replay (store : Store schema) (statements : List Statement) : Option (Store schema) :=
  statements.foldlM Store.exec store

/-- No statement. -/
@[simp] lemma Store.replay_nil (store : Store schema) : store.replay [] = some store := rfl

/-- The statements one by one. -/
@[simp] lemma Store.replay_cons (store : Store schema) (statement : Statement)
    (statements : List Statement) :
    store.replay (statement :: statements) =
      (store.exec statement).bind fun store' => store'.replay statements := rfl

/-- Some statements and then others. -/
lemma Store.replay_append (store : Store schema) (statements statements' : List Statement) :
    store.replay (statements ++ statements') =
      (store.replay statements).bind fun store' => store'.replay statements' :=
  List.foldlM_append

/-- The rows of the table that satisfy the condition. -/
def Store.select (store : Store schema) (name : String) (conditions : List (String × String)) :
    List Row :=
  (store.rows name).filter fun row => row.satisfies conditions

/-- The rows after new rows were accepted. -/
lemma Store.write_eq_some {store store' : Store schema} {name : String} {rows : List Row}
    (h : store.write name rows = some store') (name' : String) :
    store'.rows name' = if name' = name then rows else store.rows name' := by
  unfold Store.write at h
  split at h
  · obtain rfl := Option.some.inj h
    rfl
  · cases h

/-- A statement that was accepted changed the rows of its table. -/
lemma Store.exec_eq_some {store store' : Store schema} {statement : Statement}
    (h : store.exec statement = some store') :
    store'.rows statement.table = statement.change (store.rows statement.table) := by
  rw [Store.write_eq_some h, if_pos rfl]

/-- A statement that was accepted left the other tables alone. -/
lemma Store.exec_eq_some_of_ne {store store' : Store schema} {statement : Statement}
    (h : store.exec statement = some store') {name : String} (hname : name ≠ statement.table) :
    store'.rows name = store.rows name := by
  rw [Store.write_eq_some h, if_neg hname]

/-- A statement that was accepted left what is selected of the other tables alone. -/
lemma Store.select_exec_of_ne {store store' : Store schema} {statement : Statement}
    (h : store.exec statement = some store') {name : String} (hname : name ≠ statement.table)
    (key : List (String × String)) : store'.select name key = store.select name key := by
  unfold Store.select
  rw [Store.exec_eq_some_of_ne h hname]

/-- What is selected after an insert: the new row comes last, if it satisfies the condition. -/
lemma Store.select_insert {store store' : Store schema} {name : String}
    {values : List (String × String)} (h : store.exec (.insert name values) = some store')
    (key : List (String × String)) :
    store'.select name key = store.select name key ++
      if (Row.ofValues values).satisfies key then [Row.ofValues values] else [] := by
  have hrows : store'.rows name = store.rows name ++ [Row.ofValues values] :=
    Store.exec_eq_some h
  unfold Store.select
  rw [hrows, List.filter_append, List.filter_singleton, Bool.cond_eq_ite]

/-- What is selected after an update that leaves every row on the side of the condition where it
was: the selected rows are updated. -/
lemma Store.select_update {store store' : Store schema} {name : String}
    {assignments conditions key : List (String × String)}
    (h : store.exec (.update name assignments conditions) = some store')
    (hkey : ∀ row : Row, row.satisfies conditions = true →
      (row.assign assignments).satisfies key = row.satisfies key) :
    store'.select name key = (store.select name key).map fun row =>
      if row.satisfies conditions then row.assign assignments else row := by
  have hrows : store'.rows name = (store.rows name).map fun row =>
      if row.satisfies conditions then row.assign assignments else row := Store.exec_eq_some h
  unfold Store.select
  rw [hrows, List.filter_map]
  refine congrArg _ (List.filter_congr fun row _ => ?_)
  simp only [Function.comp_apply]
  split
  · next hrow => exact hkey row hrow
  · rfl

/-- A condition that names the primary key selects one row at most.

**Proof sketch.** Two selected rows have the key that the condition names, and rows with one key are
one row. -/
lemma Store.length_select_le_one (store : Store schema) {name : String} {table : TableSchema}
    (htable : table ∈ schema name) {conditions : List (String × String)}
    (hkey : ∀ column ∈ table.primaryKey, column ∈ conditions.map Prod.fst) :
    (store.select name conditions).length ≤ 1 := by
  have hnodup : ((store.select name conditions).map table.keyOf).Nodup :=
    (store.keyed name table htable).sublist (List.filter_sublist.map table.keyOf)
  have hsame : ∀ row ∈ store.select name conditions, ∀ row' ∈ store.select name conditions,
      table.keyOf row = table.keyOf row' := by
    intro row hrow row' hrow'
    refine List.map_congr_left fun column hcolumn => ?_
    obtain ⟨⟨_, text⟩, hcondition, rfl⟩ := List.mem_map.mp (hkey column hcolumn)
    have htext := List.all_eq_true.mp (List.mem_filter.mp hrow).2 _ hcondition
    have htext' := List.all_eq_true.mp (List.mem_filter.mp hrow').2 _ hcondition
    rw [eq_of_beq htext, eq_of_beq htext']
  match hrows : store.select name conditions with
  | [] => simp
  | [_] => simp
  | row :: row' :: rest =>
    rw [hrows] at hnodup hsame
    have hkeys := hsame row (by simp) row' (by simp)
    simp [hkeys] at hnodup

/-- Rows that keep the primary keys are accepted. -/
lemma Store.write_ne_none {store : Store schema} {name : String} {rows : List Row}
    (h : ∀ table ∈ schema name, (rows.map table.keyOf).Nodup) : store.write name rows ≠ none := by
  unfold Store.write
  rw [dif_pos h]
  exact Option.some_ne_none _

/-- A row with a new primary key is accepted. -/
lemma Store.insert_ne_none {store : Store schema} {name : String} {values : List (String × String)}
    (h : ∀ table ∈ schema name, ∀ row ∈ store.rows name,
      table.keyOf row ≠ table.keyOf (Row.ofValues values)) :
    store.exec (.insert name values) ≠ none := by
  refine Store.write_ne_none fun table htable => ?_
  show ((store.rows name ++ [Row.ofValues values]).map table.keyOf).Nodup
  rw [List.map_append, List.map_singleton, List.nodup_append']
  refine ⟨store.keyed name table htable, List.nodup_singleton _, ?_⟩
  intro key hkey hnew
  obtain ⟨row, hrow, rfl⟩ := List.mem_map.mp hkey
  exact h table htable row hrow (List.mem_singleton.mp hnew)

/-- An update that leaves the primary keys alone is accepted.

**Proof sketch.** The list of the keys is the same after the update. -/
lemma Store.update_ne_none {store : Store schema} {name : String}
    {assignments conditions : List (String × String)}
    (h : ∀ table ∈ schema name, ∀ row : Row, row.satisfies conditions = true →
      table.keyOf (row.assign assignments) = table.keyOf row) :
    store.exec (.update name assignments conditions) ≠ none := by
  refine Store.write_ne_none fun table htable => ?_
  show (((store.rows name).map _).map table.keyOf).Nodup
  have hkeys : ((store.rows name).map fun row =>
      if row.satisfies conditions then row.assign assignments else row).map table.keyOf =
        (store.rows name).map table.keyOf := by
    rw [List.map_map]
    refine List.map_congr_left fun row _ => ?_
    simp only [Function.comp_apply]
    split
    · next hrow => exact h table htable row hrow
    · rfl
  rw [hkeys]
  exact store.keyed name table htable

/-- A column without a value. -/
lemma lookup_eq_none {values : List (String × String)} {column : String} :
    values.lookup column = none ↔ column ∉ values.map Prod.fst := by
  rw [List.lookup_eq_none_iff, List.mem_map]
  constructor
  · rintro h ⟨value, hvalue, rfl⟩
    exact absurd rfl (bne_iff_ne.mp (h value hvalue))
  · intro h value hvalue
    refine bne_iff_ne.mpr fun heq => h ⟨value, hvalue, heq.symm⟩

/-- Values for all the columns that a row has replace the row. -/
lemma Row.assign_ofValues {values assignments : List (String × String)}
    (h : ∀ column, column ∈ values.map Prod.fst → column ∈ assignments.map Prod.fst) :
    (Row.ofValues values).assign assignments = Row.ofValues assignments := by
  funext column
  unfold Row.assign Row.ofValues
  cases hassigned : assignments.lookup column with
  | some value => rfl
  | none =>
    have hmissing := lookup_eq_none.mp hassigned
    have hnone : values.lookup column = none :=
      lookup_eq_none.mpr fun hmem => hmissing (h column hmem)
    rw [hnone]
    rfl

/-! ## Sessions -/

/-- The committed rows, and the rows that an open transaction sees. -/
structure Session (schema : Schema) where
  committed : Store schema
  /-- The rows of the open transaction, if there is one. -/
  working : Option (Store schema)

namespace Session

/-- The rows that the next statement sees. -/
def view (session : Session schema) : Store schema := session.working.getD session.committed

/-- Replace the rows that the next statement sees; outside a transaction they are committed. -/
def put (session : Session schema) (store : Store schema) : Session schema :=
  match session.working with
  | none => ⟨store, none⟩
  | some _ => ⟨session.committed, some store⟩

end Session

end Sql
