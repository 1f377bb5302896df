import Mathlib.Data.List.Forall2
import Mathlib.Data.Option.Basic
import QTradeService.Library.Sql.Tables

set_option relaxedAutoImplicit false
set_option autoImplicit false

/-!
# Tables with secret columns

What someone can tell who does not see the texts in secret columns. Two texts that cannot be told
apart are alike; rows, statements and stores are alike if they differ in texts that are alike
only. A statement does on stores that are alike what cannot be told apart again, if neither its
condition nor a primary key is about a secret column.

## Main definitions

* `Sql.Secrecy` — which texts of a column are alike.
* `Sql.Secrecy.Rows`, `Sql.Secrecy.Statements`, `Sql.Secrecy.Stores` — what is alike.
* `Sql.Secrecy.SameForm` — statements that differ in the values they write only.

## Main results

* `Sql.Secrecy.Stores.select` — alike rows are selected.
* `Sql.Secrecy.Stores.affected`, `Sql.Secrecy.Stores.exec` — alike statements are accepted alike,
  affect the same number of rows and leave stores that are alike.
-/

namespace Sql

/-- Which texts in a column of a table are alike. -/
structure Secrecy where
  alike : (table column text text' : String) → Prop
  refl : ∀ table column text, alike table column text text

namespace Secrecy

variable (secrecy : Secrecy)

/-- The column is not secret: different texts can be told apart. -/
def Public (table column : String) : Prop :=
  ∀ text text', secrecy.alike table column text text' → text = text'

/-- Rows of a table that are alike. -/
def Rows (table : String) (row row' : Row) : Prop :=
  ∀ column, Option.Rel (secrecy.alike table column) (row column) (row' column)

/-- Values for columns of a table that are alike. -/
def Values (table : String) (values values' : List (String × String)) : Prop :=
  List.Forall₂ (fun value value' => value.1 = value'.1 ∧
    secrecy.alike table value.1 value.2 value'.2) values values'

/-- A condition that is not about secret columns. -/
def Open (table : String) (conditions : List (String × String)) : Prop :=
  ∀ condition ∈ conditions, secrecy.Public table condition.1

/-- Statements that are alike. -/
inductive Statements : Statement → Statement → Prop
  | insert {table : String} {values values' : List (String × String)}
      (hvalues : secrecy.Values table values values') :
      Statements (.insert table values) (.insert table values')
  | update {table : String} {assignments assignments' conditions : List (String × String)}
      (hassignments : secrecy.Values table assignments assignments')
      (hconditions : secrecy.Open table conditions) :
      Statements (.update table assignments conditions) (.update table assignments' conditions)
  | delete {table : String} {conditions : List (String × String)}
      (hconditions : secrecy.Open table conditions) :
      Statements (.delete table conditions) (.delete table conditions)

/-- Stores that are alike: rows that are alike in the same order. -/
def Stores {schema : Schema} (store store' : Store schema) : Prop :=
  ∀ name, List.Forall₂ (secrecy.Rows name) (store.rows name) (store'.rows name)

/-- Statements that differ in the values they write only. -/
inductive SameForm : Statement → Statement → Prop
  | insert {table : String} {values values' : List (String × String)}
      (hcolumns : values.map Prod.fst = values'.map Prod.fst) :
      SameForm (.insert table values) (.insert table values')
  | update {table : String} {assignments assignments' conditions : List (String × String)}
      (hcolumns : assignments.map Prod.fst = assignments'.map Prod.fst) :
      SameForm (.update table assignments conditions) (.update table assignments' conditions)
  | same (statement : Statement) : SameForm statement statement

variable {secrecy} {schema : Schema} {name : String} {row row' : Row} {rows rows' : List Row}
  {values values' conditions : List (String × String)} {statement statement' : Statement}
  {store store' : Store schema}

/-! ## Reflexivity -/

/-- A row is like itself. -/
lemma Rows.refl (row : Row) : secrecy.Rows name row row := by
  intro column
  cases row column with
  | none => exact .none
  | some text => exact .some (secrecy.refl name column text)

/-- Values are like themselves. -/
lemma Values.refl (values : List (String × String)) : secrecy.Values name values values :=
  List.forall₂_same.mpr fun value _ => ⟨rfl, secrecy.refl name value.1 value.2⟩

/-- A store is like itself. -/
lemma Stores.refl (store : Store schema) : secrecy.Stores store store :=
  fun _ => List.forall₂_same.mpr fun row _ => Rows.refl row

/-! ## Rows -/

/-- Alike rows have the same text in a column that is not secret. -/
lemma Rows.eq_of_public (h : secrecy.Rows name row row') {column : String}
    (hpublic : secrecy.Public name column) : row column = row' column := by
  have hcolumn := h column
  generalize row column = text at hcolumn
  generalize row' column = text' at hcolumn
  cases hcolumn with
  | none => rfl
  | some halike => rw [hpublic _ _ halike]

/-- Alike rows satisfy the same open conditions. -/
lemma Rows.satisfies (h : secrecy.Rows name row row') (hopen : secrecy.Open name conditions) :
    row.satisfies conditions = row'.satisfies conditions := by
  unfold Row.satisfies
  rw [Bool.eq_iff_iff, List.all_eq_true, List.all_eq_true]
  refine forall₂_congr fun condition hcondition => ?_
  rw [h.eq_of_public (hopen condition hcondition)]

/-- Alike values give a column alike texts.

**Proof sketch.** By induction on the values, which name the same columns in the same order. -/
lemma Values.lookup (h : secrecy.Values name values values') (column : String) :
    Option.Rel (secrecy.alike name column) (values.lookup column) (values'.lookup column) := by
  induction h with
  | nil => exact .none
  | @cons value value' values values' hvalue _ ih =>
    obtain ⟨column', text⟩ := value
    obtain ⟨column'', text'⟩ := value'
    obtain ⟨rfl, halike⟩ : column' = column'' ∧ secrecy.alike name column' text text' := hvalue
    by_cases hcolumn : column = column'
    · subst hcolumn
      simp only [List.lookup_cons_self]
      exact .some halike
    · have hne : (column == column') = false := beq_eq_false_iff_ne.mpr hcolumn
      rw [List.lookup_cons, List.lookup_cons, hne]
      exact ih

/-- Alike values make alike rows. -/
lemma Values.ofValues (h : secrecy.Values name values values') :
    secrecy.Rows name (Row.ofValues values) (Row.ofValues values') := h.lookup

/-- Alike rows are alike after alike assignments. -/
lemma Rows.assign (h : secrecy.Rows name row row') (hvalues : secrecy.Values name values values') :
    secrecy.Rows name (row.assign values) (row'.assign values') := by
  intro column
  have hlookup := hvalues.lookup column
  unfold Row.assign
  generalize values.lookup column = text at hlookup
  generalize values'.lookup column = text' at hlookup
  cases hlookup with
  | none => exact h column
  | some halike => exact .some halike

/-- Alike rows have the same key, if no key column is secret. -/
lemma Rows.keyOf (h : secrecy.Rows name row row') {table : TableSchema}
    (hkeys : ∀ column ∈ table.primaryKey, secrecy.Public name column) :
    table.keyOf row = table.keyOf row' :=
  List.map_congr_left fun column hcolumn => h.eq_of_public (hkeys column hcolumn)

/-! ## Tables -/

/-- Alike rows have the same keys. -/
lemma map_keyOf_alike (h : List.Forall₂ (secrecy.Rows name) rows rows') {table : TableSchema}
    (hkeys : ∀ column ∈ table.primaryKey, secrecy.Public name column) :
    rows.map table.keyOf = rows'.map table.keyOf := by
  induction h with
  | nil => rfl
  | cons hrow _ ih => rw [List.map_cons, List.map_cons, hrow.keyOf hkeys, ih]

/-- Alike rows of a table without secret columns are the same. -/
lemma rows_eq_of_public (h : List.Forall₂ (secrecy.Rows name) rows rows')
    (hpublic : ∀ column, secrecy.Public name column) : rows = rows' := by
  rw [← List.forall₂_eq_eq_eq]
  exact h.imp fun row row' hrow => funext fun column => hrow.eq_of_public (hpublic column)

/-- Alike statements are about the same table. -/
lemma Statements.table (h : secrecy.Statements statement statement') :
    statement.table = statement'.table := by
  cases h <;> rfl

/-- Alike statements change alike rows alike.

**Proof sketch.** By cases on the statement. Its conditions name public columns only, so a row
satisfies them if and only if its counterpart does. -/
lemma Statements.change (h : secrecy.Statements statement statement')
    (hrows : List.Forall₂ (secrecy.Rows statement.table) rows rows') :
    List.Forall₂ (secrecy.Rows statement.table) (statement.change rows)
      (statement'.change rows') := by
  cases h with
  | insert hvalues => exact List.rel_append hrows (.cons hvalues.ofValues .nil)
  | @update table assignments assignments' conditions hassignments hconditions =>
    show List.Forall₂ _ (rows.map _) (rows'.map _)
    rw [List.forall₂_map_left_iff, List.forall₂_map_right_iff]
    refine hrows.imp fun row row' hrow => ?_
    rw [hrow.satisfies hconditions]
    split
    · exact hrow.assign hassignments
    · exact hrow
  | @delete table conditions hconditions =>
    refine List.rel_filter (fun row row' hrow => ?_) hrows
    show (!row.satisfies conditions) = true ↔ (!row'.satisfies conditions) = true
    rw [hrow.satisfies hconditions]

/-- Alike statements are about the same number of rows.

**Proof sketch.** By cases on the statement. Alike rows satisfy the same conditions, so as many are
counted. -/
lemma Statements.affected (h : secrecy.Statements statement statement')
    (hrows : List.Forall₂ (secrecy.Rows statement.table) rows rows') :
    statement.affected rows = statement'.affected rows' := by
  have hcount {conditions : List (String × String)}
      (hconditions : secrecy.Open statement.table conditions) :
      (rows.countP fun row => row.satisfies conditions) =
        rows'.countP fun row => row.satisfies conditions := by
    rw [List.countP_eq_length_filter, List.countP_eq_length_filter]
    refine (List.rel_filter (fun row row' hrow => ?_) hrows).length_eq
    show row.satisfies conditions = true ↔ row'.satisfies conditions = true
    rw [hrow.satisfies hconditions]
  cases h with
  | insert => rfl
  | update _ hconditions => exact hcount hconditions
  | delete hconditions => exact hcount hconditions

/-- Alike values are for the same columns. -/
lemma Values.columns (h : secrecy.Values name values values') :
    values.map Prod.fst = values'.map Prod.fst := by
  induction h with
  | nil => rfl
  | cons hvalue _ ih => rw [List.map_cons, List.map_cons, hvalue.1, ih]

/-- Alike statements have the same form. -/
lemma Statements.sameForm (h : secrecy.Statements statement statement') :
    SameForm statement statement' := by
  cases h with
  | insert hvalues => exact .insert hvalues.columns
  | update hassignments => exact .update hassignments.columns
  | delete => exact .same _

/-! ## Stores -/

/-- Alike rows are selected by an open condition. -/
theorem Stores.select (h : secrecy.Stores store store') (hopen : secrecy.Open name conditions) :
    List.Forall₂ (secrecy.Rows name) (store.select name conditions)
      (store'.select name conditions) := by
  refine List.rel_filter (fun row row' hrow => ?_) (h name)
  show row.satisfies conditions = true ↔ row'.satisfies conditions = true
  rw [hrow.satisfies hopen]

/-- Alike statements are about the same number of rows. -/
theorem Stores.affected (h : secrecy.Stores store store')
    (hstatements : secrecy.Statements statement statement') :
    statement.affected (store.rows statement.table) =
      statement'.affected (store'.rows statement'.table) := by
  rw [← hstatements.table]
  exact hstatements.affected (h statement.table)

/-- Alike statements are accepted alike, and leave stores that are alike.

**Proof sketch.** The keys are public, so the changed rows have the same keys on both sides, and the
primary key accepts both or neither. -/
theorem Stores.exec (h : secrecy.Stores store store')
    (hkeys : ∀ name, ∀ table ∈ schema name, ∀ column ∈ table.primaryKey,
      secrecy.Public name column)
    (hstatements : secrecy.Statements statement statement') :
    Option.Rel secrecy.Stores (store.exec statement) (store'.exec statement') := by
  have hchange := hstatements.change (h statement.table)
  have haccepted : (∀ table ∈ schema statement.table,
        ((statement.change (store.rows statement.table)).map table.keyOf).Nodup) ↔
      ∀ table ∈ schema statement.table,
        ((statement'.change (store'.rows statement.table)).map table.keyOf).Nodup := by
    refine forall₂_congr fun table htable => ?_
    rw [map_keyOf_alike hchange (hkeys statement.table table htable)]
  unfold Store.exec Store.write
  rw [← hstatements.table]
  split
  · next hnodup =>
    rw [dif_pos (haccepted.mp hnodup)]
    refine .some fun name => ?_
    show List.Forall₂ (secrecy.Rows name) (if _ then _ else _) (if _ then _ else _)
    split
    · next hname =>
      subst hname
      exact hchange
    · exact h name
  · next hrefused =>
    rw [dif_neg fun hnodup => hrefused (haccepted.mpr hnodup)]
    exact .none

end Secrecy

end Sql
