import QTradeService.Dao.AccountTables

set_option relaxedAutoImplicit false
set_option autoImplicit false

/-!
# The rows that a list of conditions selects

`DeleteRows`, `UpdateRows`, `CountRows` and `SelectRows` take a list of columns with the values
that they are to have. `AppendStringEq` leaves out a condition on the empty text, so the rows in
question are the ones that agree with the list where its values are not empty.

## Main definitions

* `Dao.Matches` — a row agrees with a list of conditions, but for the empty ones.
* `Dao.ComparesExactly` — a database that executes a statement whatever the texts in it are.

## Main results

* `Dao.conditions_select_matching` — exactly which rows are removed, changed, counted, returned.
* `Dao.empty_condition_dropped` — a condition on the empty text has no effect.
-/

namespace Dao

open Sql Database

/-! ## Conditions -/

/-- The row has the listed value in every listed column whose value is not empty. -/
def Matches (row : Row) (whereValues : KeyValues) : Prop :=
  ∀ keyValue ∈ whereValues, keyValue.2 ≠ "" → row keyValue.1 = some keyValue.2

instance (row : Row) (whereValues : KeyValues) : Decidable (Matches row whereValues) :=
  inferInstanceAs (Decidable (∀ keyValue ∈ whereValues, _))

/-- The rows that satisfy the conditions that reach the database. -/
lemma satisfies_conditionsOf (row : Row) (whereValues : KeyValues) :
    row.satisfies (conditionsOf whereValues) = decide (Matches row whereValues) := by
  rw [Bool.eq_iff_iff, decide_eq_true_eq, Row.satisfies, List.all_eq_true]
  constructor
  · intro h keyValue hmem hvalue
    have hkept : keyValue ∈ conditionsOf whereValues :=
      List.mem_filter.mpr ⟨hmem, by simpa using hvalue⟩
    exact eq_of_beq (h keyValue hkept)
  · intro h keyValue hmem
    obtain ⟨hmem, hvalue⟩ := List.mem_filter.mp hmem
    rw [h keyValue hmem (by simpa using hvalue)]
    exact beq_self_eq_true _

/-- A condition that is not empty gives the statement a `WHERE`. -/
lemma buildWhereSql_where {whereValues : KeyValues}
    (h : ∃ keyValue ∈ whereValues, keyValue.2 ≠ "") :
    ∃ conditions, buildWhereSql whereValues = " WHERE " ++ conditions := by
  obtain ⟨keyValue, hmem, hvalue⟩ := h
  have hkept : conditionsOf whereValues ≠ [] :=
    List.ne_nil_of_mem (List.mem_filter.mpr ⟨hmem, by simpa using hvalue⟩)
  rw [buildWhereSql_eq, if_neg hkept]
  exact ⟨_, rfl⟩

/-! ## Databases that compare any text -/

/-- The columns of the table include all that are named. -/
def Knows (table : TableSchema) (values : KeyValues) : Prop :=
  ∀ keyValue ∈ values, keyValue.1 ∈ table.columns

/-- A database that conforms and moreover compares texts exactly: a condition may compare any of
its columns with any text, and a column more than once. -/
structure ComparesExactly {schema : Schema} {σ : Type} (faults : Prop) (counting : Counting)
    (db : Program.Handler Call.Answer σ) (content : σ → Session schema) : Prop
    extends Conforms faults counting db content where
  delete : ∀ s sql name conditions, read sql = some (.delete name conditions) →
    ∀ table ∈ schema name, Knows table conditions →
    Executed faults counting (content s) (.delete name conditions) (db (.execute sql) s).1
      (content (db (.execute sql) s).2)
  update : ∀ s sql name assignments conditions,
    read sql = some (.update name assignments conditions) →
    ∀ table ∈ schema name, table.Fits assignments → Knows table conditions →
    Executed faults counting (content s) (.update name assignments conditions)
      (db (.execute sql) s).1 (content (db (.execute sql) s).2)
  selectAny : ∀ s sql name conditions, read sql = some (.select name conditions) →
    ∀ table ∈ schema name, Knows table conditions →
    ((∃ results, (db (.query sql) s).1 = some results ∧
      Answers (content s).view name conditions results) ∨
      (faults ∧ (db (.query sql) s).1 = none)) ∧
    content (db (.query sql) s).2 = content s
  countAny : ∀ s sql label name conditions, read sql = some (.count label name conditions) →
    ∀ table ∈ schema name, Knows table conditions →
    ((∃ row rest, (db (.query sql) s).1 = some (row :: rest) ∧
      (row label).bind Cell.asInt64 = some (((content s).view.select name conditions).length : ℤ)) ∨
      (faults ∧ (db (.query sql) s).1 = none)) ∧
    content (db (.query sql) s).2 = content s

/-- The database that is its own content compares exactly. -/
lemma reference_comparesExactly (schema : Schema) :
    ComparesExactly False countFound (reference schema)
      (id : Session schema → Session schema) where
  toConforms := reference_conforms schema
  delete s _ _ _ hread _ _ _ := executed_reference s hread trivial
  update s _ _ _ _ hread _ _ _ _ := executed_reference s hread trivial
  selectAny s _ _ _ hread _ _ _ := ⟨.inl (reference_select s hread), rfl⟩
  countAny s _ _ _ _ hread _ _ _ := ⟨.inl (reference_count s hread), rfl⟩

/-! ## What the statements do -/

/-- The rows that the next statement sees after a write. -/
lemma view_put {schema : Schema} (session : Session schema) (store : Store schema) :
    (session.put store).view = store := by
  obtain ⟨committed, working⟩ := session
  cases working <;> rfl

/-- The rows of all tables after a statement that was executed. -/
lemma rows_exec {schema : Schema} {store store' : Store schema} {statement : Statement}
    (h : store.exec statement = some store') (name : String) :
    store'.rows name = if name = statement.table then statement.change (store.rows statement.table)
      else store.rows name :=
  Store.write_eq_some h name

/-- What a statement that writes leaves behind, in terms of the rows it is to leave: they are
there if it succeeds; if not, nothing is committed, and there was a fault or the statement would
have broken a primary key. -/
structure Wrote {schema : Schema} (faults : Prop) (session : Session schema) (name : String)
    (rows : List Row) (result : Result ℤ) (session' : Session schema) : Prop where
  success : result.errorCode = .kSuccess → ∀ name',
    session'.view.rows name' = if name' = name then rows else session.view.rows name'
  failure : result.errorCode ≠ .kSuccess → session'.committed = session.committed ∧
    (faults ∨ ∃ table ∈ schema name, ¬(rows.map table.keyOf).Nodup)

/-- A write whose statement leaves given rows.

**Proof sketch.** If the statement is executed, the rows of its table are changed and no others. If
it fails without a fault, the changed rows would share a key. -/
lemma Written.wrote {schema : Schema} {faults : Prop} {reported : ℤ → Prop}
    {session session' : Session schema} {statement : Statement} {result : Result ℤ}
    (h : Written faults reported session statement result session') {rows : List Row}
    (hrows : statement.change (session.view.rows statement.table) = rows) :
    Wrote faults session statement.table rows result session' := by
  cases h with
  | executed hexec hreported =>
    refine ⟨fun _ name' => ?_, fun h => absurd rfl h⟩
    rw [view_put, rows_exec hexec, hrows]
  | failed hexec hcommitted =>
    refine ⟨nofun, fun _ => ⟨hcommitted, ?_⟩⟩
    rcases hexec with hnone | hfaults
    · right
      by_contra! hkeys
      exact Store.write_ne_none (hrows ▸ hkeys) hnone
    · exact .inl hfaults

section

variable {schema : Schema} {σ : Type} {db : Program.Handler Call.Answer σ}
  {content : σ → Session schema} {faults : Prop} {counting : Counting}
  (hdb : ComparesExactly faults counting db content) (hwords : schema.Wordy) {name : String}
  {table : TableSchema} (htable : table ∈ schema name) {whereValues : KeyValues}
  (hknown : Knows table whereValues)

omit hdb in
include hwords htable hknown in
/-- Columns of a table are words. -/
lemma columns_of_knows : Columns whereValues :=
  fun keyValue hmem => (hwords name table htable).2 _ (hknown keyValue hmem)

omit hdb hwords htable in
include hknown in
/-- The conditions that reach the database name columns of the table. -/
lemma knows_conditionsOf : Knows table (conditionsOf whereValues) :=
  fun keyValue hmem => hknown keyValue (List.mem_of_mem_filter hmem)

include hdb hwords htable hknown

/-- `DeleteRows` removes the rows that agree with the conditions. -/
lemma deleteRows_matching (hne : whereValues ≠ []) (s : σ) :
    (deleteRows name whereValues).Ensures db s fun result s' =>
      Wrote faults (content s) name
        (((content s).view.rows name).filter fun row => ¬Matches row whereValues) result
        (content s') := by
  have hread := read_delete (hwords name table htable).1 (columns_of_knows hwords htable hknown)
  refine (deleteRows_ensures_of hdb.toConforms hne fun s₁ _ =>
    hdb.delete s₁ _ _ _ hread table htable (knows_conditionsOf hknown)).mono ?_
  intro result s' hwritten
  apply hwritten.wrote
  show (((content s).view.rows name).filter fun row =>
    !row.satisfies (conditionsOf whereValues)) = _
  refine List.filter_congr fun row _ => ?_
  rw [satisfies_conditionsOf, decide_not]

/-- `UpdateRows` changes the rows that agree with the conditions.

**Proof sketch.** The rendered conditions are those with a value, and a row satisfies them if and
only if it matches the given ones. -/
lemma updateRows_matching {values : KeyValues} (hfits : table.Fits values) (hvalues : values ≠ [])
    (hne : whereValues ≠ []) (s : σ) :
    (updateRows name values whereValues).Ensures db s fun result s' =>
      Wrote faults (content s) name
        (((content s).view.rows name).map fun row =>
          if Matches row whereValues then row.assign values else row) result (content s') := by
  have hread := read_update (hwords name table htable).1 (columns_of_fits hwords htable hfits)
    hvalues (columns_of_knows hwords htable hknown)
  refine (updateRows_ensures_of hdb.toConforms hvalues hne fun s₁ _ =>
    hdb.update s₁ _ _ _ _ hread table htable hfits (knows_conditionsOf hknown)).mono ?_
  intro result s' hwritten
  apply hwritten.wrote
  show (((content s).view.rows name).map fun row =>
    if row.satisfies (conditionsOf whereValues) then row.assign values else row) = _
  refine List.map_congr_left fun row _ => ?_
  rw [satisfies_conditionsOf]
  simp only [decide_eq_true_eq]

omit hdb hwords htable hknown in
/-- The rows that the database selects are the ones that agree with the conditions. -/
lemma select_conditionsOf (store : Store schema) :
    store.select name (conditionsOf whereValues) =
      (store.rows name).filter fun row => Matches row whereValues :=
  List.filter_congr fun row _ => satisfies_conditionsOf row whereValues

/-- `CountRows` counts the rows that agree with the conditions. -/
lemma countRows_matching (s : σ) :
    (countRows name whereValues).Ensures db s fun result s' =>
      Queried faults (· = ((((content s).view.rows name).filter fun row =>
        Matches row whereValues).length : ℤ)) result ∧ content s' = content s := by
  have hread := read_count (hwords name table htable).1 (columns_of_knows hwords htable hknown)
  apply countRows_ensures_of hdb.toConforms
  intro s₁ hs₁
  rw [← hs₁, ← select_conditionsOf]
  exact hdb.countAny s₁ _ _ _ _ hread table htable (knows_conditionsOf hknown)

/-- `SelectRows` returns the rows that agree with the conditions. -/
lemma selectRows_matching (s : σ) :
    (selectRows name whereValues).Ensures db s fun result s' =>
      Queried faults (fun results => ∃ rows : List Row,
        rows.Perm (((content s).view.rows name).filter fun row => Matches row whereValues) ∧
        List.Forall₂ (Shows table) rows results) result ∧ content s' = content s := by
  have hread := read_select (hwords name table htable).1 (columns_of_knows hwords htable hknown)
  apply selectRows_ensures_of hdb.toConforms
  intro s₁ hs₁
  rw [← hs₁, ← select_conditionsOf]
  obtain ⟨hanswer, hcontent⟩ := hdb.selectAny s₁ _ _ _ hread table htable
    (knows_conditionsOf hknown)
  refine ⟨?_, hcontent⟩
  rcases hanswer with ⟨results, hresults, hshows⟩ | hfailed
  · exact .inl ⟨results, hresults, hshows table htable⟩
  · exact .inr hfailed

/-- **The rows that a list of conditions selects.** Let the listed columns be columns of a
declared table, the values any texts. The rows that `CountRows` counts and `SelectRows` returns
are exactly those that have the listed value in every listed column whose value is not empty. If
at least one value is not empty, then a `DELETE` or `UPDATE` with these conditions has a `WHERE`,
and the rows that `DeleteRows` removes and `UpdateRows` changes are exactly those rows; all other
rows and tables stay as they were. A statement that fails leaves what is committed alone.

**Proof sketch.** Each statement is read back with the conditions that `AppendStringEq` does not
skip, whatever the values are, and these are satisfied by the rows in question. -/
theorem conditions_select_matching (s : σ) :
    ((∃ keyValue ∈ whereValues, keyValue.2 ≠ "") →
      (∃ conditions, buildWhereSql whereValues = " WHERE " ++ conditions) ∧
      ((deleteRows name whereValues).Ensures db s fun result s' =>
        Wrote faults (content s) name
          (((content s).view.rows name).filter fun row => ¬Matches row whereValues) result
          (content s')) ∧
      ∀ values, table.Fits values → values ≠ [] →
        (updateRows name values whereValues).Ensures db s fun result s' =>
          Wrote faults (content s) name
            (((content s).view.rows name).map fun row =>
              if Matches row whereValues then row.assign values else row) result (content s')) ∧
    ((countRows name whereValues).Ensures db s fun result s' =>
      Queried faults (· = ((((content s).view.rows name).filter fun row =>
        Matches row whereValues).length : ℤ)) result ∧ content s' = content s) ∧
    (selectRows name whereValues).Ensures db s fun result s' =>
      Queried faults (fun results => ∃ rows : List Row,
        rows.Perm (((content s).view.rows name).filter fun row => Matches row whereValues) ∧
        List.Forall₂ (Shows table) rows results) result ∧ content s' = content s := by
  refine ⟨fun hsome => ?_, countRows_matching hdb hwords htable hknown s,
    selectRows_matching hdb hwords htable hknown s⟩
  have hne : whereValues ≠ [] := by
    obtain ⟨keyValue, hmem, -⟩ := hsome
    exact List.ne_nil_of_mem hmem
  exact ⟨buildWhereSql_where hsome, deleteRows_matching hdb hwords htable hknown hne s,
    fun values hfits hvalues =>
      updateRows_matching hdb hwords htable hknown hfits hvalues hne s⟩

end

/-! ## An account -/

/-- A store with one account, whose status is `active`. -/
def oneAccount : Store accountSchema where
  rows name :=
    if name = TradingAccount.tableName then
      [Row.ofValues [("account_id", "a1"), ("broker_id", "b'1"), ("connection_string", "tcp"),
        ("status", "active")]]
    else []
  keyed name table _ := by
    split <;> simp

/-- The account is found by its broker and its status. -/
theorem conditions_select_matching_sample :
    ((countRows TradingAccount.tableName [("broker_id", "b'1"), ("status", "active")]).run
      (reference accountSchema) ⟨oneAccount, none⟩).1 = ⟨.kSuccess, "", some 1⟩ := by
  have hknown : Knows tradingAccountTable [("broker_id", "b'1"), ("status", "active")] := by
    unfold Knows
    decide
  obtain ⟨-, ⟨hcount, -⟩, -⟩ := conditions_select_matching (reference_comparesExactly accountSchema)
    accountSchema_wordy tradingAccountTable_mem hknown ⟨oneAccount, none⟩
  have hone : ((((⟨oneAccount, none⟩ : Session accountSchema).view.rows
      TradingAccount.tableName).filter fun row =>
        Matches row [("broker_id", "b'1"), ("status", "active")]).length : ℤ) = 1 := by decide
  generalize ((countRows TradingAccount.tableName [("broker_id", "b'1"), ("status", "active")]).run
    (reference accountSchema) ⟨oneAccount, none⟩).1 = result at hcount ⊢
  cases hcount with
  | answered hdata => rw [hdata, id, hone]
  | failed hfaults => exact hfaults.elim

/-- A condition on the empty text has no effect: the account counts although its status is not
empty.

**Proof sketch.** The account matches, since the condition on the empty text is dropped, but its
status is not the empty text. -/
theorem empty_condition_dropped :
    ¬∀ whereValues : KeyValues, whereValues ≠ [] → Knows tradingAccountTable whereValues →
      ((countRows TradingAccount.tableName whereValues).run (reference accountSchema)
        ⟨oneAccount, none⟩).1.data =
        some (((oneAccount.rows TradingAccount.tableName).filter fun row =>
          row.satisfies whereValues).length : ℤ) := by
  intro h
  have hknown : Knows tradingAccountTable [("broker_id", "b'1"), ("status", "")] := by
    unfold Knows
    decide
  have hnone := h _ (List.cons_ne_nil _ _) hknown
  obtain ⟨hcount, -⟩ := countRows_matching (reference_comparesExactly accountSchema)
    accountSchema_wordy tradingAccountTable_mem hknown ⟨oneAccount, none⟩
  have ⟨hone, hzero⟩ : ((((⟨oneAccount, none⟩ : Session accountSchema).view.rows
      TradingAccount.tableName).filter fun row =>
        Matches row [("broker_id", "b'1"), ("status", "")]).length : ℤ) = 1 ∧
      (((oneAccount.rows TradingAccount.tableName).filter fun row =>
        row.satisfies [("broker_id", "b'1"), ("status", "")]).length : ℤ) = 0 := by decide
  rw [hzero] at hnone
  generalize ((countRows TradingAccount.tableName [("broker_id", "b'1"), ("status", "")]).run
    (reference accountSchema) ⟨oneAccount, none⟩).1 = result at hcount hnone
  cases hcount with
  | answered hdata =>
    rw [hdata, id, hone] at hnone
    cases hnone
  | failed hfaults => exact hfaults

end Dao
