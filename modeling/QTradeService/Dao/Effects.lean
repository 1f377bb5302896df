import QTradeService.Dao.Rendering

set_option relaxedAutoImplicit false
set_option autoImplicit false

/-!
# What the statements do

The functions of `Dao.DmlUtils` on a database that conforms: what they answer and what the
database holds afterwards.

## Main results

* `Dao.insertRow_ensures`, `Dao.updateRows_ensures`, `Dao.deleteRows_ensures_of`,
  `Dao.truncateRows_ensures` — the rows change as the statement says, or the statement is refused
  and nothing changes.
* `Dao.countRows_ensures`, `Dao.selectRows_ensures` — the answer tells the rows, nothing changes.
-/

namespace Dao

open Sql Database

variable {schema : Schema} {σ : Type} {db : Program.Handler Call.Answer σ}
  {content : σ → Session schema} {faults : Prop} {counting : Counting}

/-- The result of a statement that changes rows: the reported number of rows, or a failure. -/
inductive Written (faults : Prop) (reported : ℤ → Prop) (session : Session schema)
    (statement : Statement) : Result ℤ → Session schema → Prop
  | executed {store : Store schema} {affected : ℤ}
      (hexec : session.view.exec statement = some store) (hreported : reported affected) :
      Written faults reported session statement ⟨.kSuccess, "", some affected⟩ (session.put store)
  | failed {message : String} {session' : Session schema}
      (hexec : session.view.exec statement = none ∨ faults)
      (hcommitted : session'.committed = session.committed) :
      Written faults reported session statement (.void .kSystemError message) session'

/-- The result of a query: the data, or a failure. -/
inductive Queried {α : Type} (faults : Prop) (data : α → Prop) : Result α → Prop
  | answered {a : α} (hdata : data a) : Queried faults data ⟨.kSuccess, "", some a⟩
  | failed {message : String} (hfaults : faults) : Queried faults data (.void .kSystemError message)

/-- The database answers the query with one row that shows a number, or fails. -/
def Counts (faults : Prop) (db : Program.Handler Call.Answer σ) (content : σ → Session schema)
    (sql : String) (count : ℤ) (s : σ) : Prop :=
  (query sql).Ensures db s fun answer s' =>
    ((∃ row rest, answer = some (row :: rest) ∧ (row "cnt").bind Cell.asInt64 = some count) ∨
      (faults ∧ answer = none)) ∧ content s' = content s

/-- Values that fit a table have columns that are words. -/
lemma columns_of_fits (hwords : schema.Wordy) {name : String} {table : TableSchema}
    (htable : table ∈ schema name) {values : KeyValues} (hfits : table.Fits values) :
    Columns values :=
  fun keyValue hmem => (hwords name table htable).2 _ (hfits.known keyValue hmem)

section

variable (hdb : Conforms faults counting db content)

include hdb

/-- A failed statement is reported with the message of the connection. -/
lemma dbFailureResult_ensures {α : Type} (s : σ) :
    (dbFailureResult : Db (Result α)).Ensures db s fun result s' =>
      (∃ message, result = .void .kSystemError message) ∧ content s' = content s :=
  ⟨⟨_, rfl⟩, hdb.lastError s⟩

/-- A failed query is reported. -/
lemma failed_query_ensures {α : Type} (hfaults : faults) (data : α → Prop) (s : σ) :
    (dbFailureResult : Db (Result α)).Ensures db s fun result s' =>
      Queried faults data result ∧ content s' = content s := by
  apply (dbFailureResult_ensures hdb s).mono
  intro result s' hs'
  obtain ⟨⟨message, rfl⟩, hs'⟩ := hs'
  exact ⟨.failed hfaults, hs'⟩

/-- A statement that changes rows. -/
lemma execute_ensures {sql : String} {statement : Statement} (hread : read sql = some statement)
    (hwrite : statement.IsWrite) (hadmits : schema.Admits statement) (s : σ) :
    (execute sql).Ensures db s fun answer s' =>
      Executed faults counting (content s) statement answer (content s') :=
  hdb.execute s sql statement hread hwrite hadmits

/-- The result that is made of the answer to a statement.

**Proof sketch.** If the statement is executed, its count is reported. Otherwise the failure is
reported, which changes nothing more. -/
lemma report_ensures {session : Session schema} {statement : Statement} (report : ℤ → ℤ)
    (reported : ℤ → Prop)
    (hreport : ∀ affected,
      counting.Reports statement (session.view.rows statement.table) affected →
        reported (report affected))
    (answer : Option ℤ) (s : σ) :
    Executed faults counting session statement answer (content s) →
    (match answer with
      | none => dbFailureResult
      | some affected => pure ⟨.kSuccess, "", some (report affected)⟩ :
        Db (Result ℤ)).Ensures db s fun result s' =>
      Written faults reported session statement result (content s') := by
  intro h
  generalize hsession : content s = session' at h
  cases h with
  | executed hexec hcounting =>
    refine .pure ?_
    rw [hsession]
    exact .executed hexec (hreport _ hcounting)
  | failed hexec hcommitted =>
    apply (dbFailureResult_ensures hdb s).mono
    intro result s' hs'
    obtain ⟨⟨message, rfl⟩, hs'⟩ := hs'
    exact .failed hexec (by rw [hs', hsession, hcommitted])

/-- `InsertRow` inserts the row, unless its primary key is taken. -/
lemma insertRow_ensures {name : String} {table : TableSchema} (hwords : schema.Wordy)
    (htable : table ∈ schema name) {values : KeyValues} (hfits : table.Fits values)
    (hcomplete : ∀ column ∈ table.columns, column ∈ values.map Prod.fst)
    (hvalues : values ≠ []) (s : σ) :
    (insertRow name values).Ensures db s fun result s' =>
      Written faults (· = 1) (content s) (.insert name values) result (content s') := by
  have hcolumns := columns_of_fits hwords htable hfits
  have hread := read_insert (hwords name table htable).1 hcolumns hvalues
  refine checked_ensures _ (hdb.isConnected s) (by simpa using hvalues)
    (fun h => .failed (.inr h) rfl) ?_
  intro s₁ hs₁
  rw [← hs₁]
  refine (execute_ensures hdb hread trivial ⟨table, htable, hfits, hcomplete⟩ s₁).bind
    ?_
  intro answer s₂ hs₂
  exact report_ensures hdb (fun _ => 1) (· = 1) (fun _ _ => rfl) answer s₂ hs₂

/-- `DeleteRows`, for a database that executes the statement. -/
lemma deleteRows_ensures_of {name : String} {whereValues : KeyValues} {statement : Statement}
    (hconditions : whereValues ≠ []) {s : σ}
    (hexecute : ∀ s₁, content s₁ = content s →
      (execute ("DELETE FROM " ++ name ++ buildWhereSql whereValues)).Ensures db s₁
        fun answer s₂ => Executed faults counting (content s₁) statement answer (content s₂)) :
    (deleteRows name whereValues).Ensures db s fun result s' =>
      Written faults (counting.Reports statement ((content s).view.rows statement.table))
        (content s) statement result (content s') := by
  refine checked_ensures _ (hdb.isConnected s) (by simpa using hconditions)
    (fun h => .failed (.inr h) rfl) ?_
  intro s₁ hs₁
  rw [← hs₁]
  apply (hexecute s₁ hs₁).bind
  intro answer s₂ hs₂
  exact report_ensures hdb id _ (fun _ h => h) answer s₂ hs₂

/-- `TruncateRows` deletes all rows. -/
lemma truncateRows_ensures {name : String} {table : TableSchema} (hwords : schema.Wordy)
    (htable : table ∈ schema name) (s : σ) :
    (truncateRows name).Ensures db s fun result s' =>
      Written faults (counting.Reports (.delete name []) ((content s).view.rows name))
        (content s) (.delete name []) result (content s') := by
  have hcolumns : Columns ([] : KeyValues) := by simp [Columns]
  have hread := read_delete (hwords name table htable).1 hcolumns
  rw [show buildWhereSql [] = "" from rfl, String.append_empty] at hread
  have hadmits : schema.Admits (.delete name []) := ⟨table, htable, by constructor <;> simp⟩
  refine checked_ensures _ (hdb.isConnected s) rfl (fun h => .failed (.inr h) rfl) ?_
  intro s₁ hs₁
  rw [← hs₁]
  refine (execute_ensures hdb hread trivial hadmits s₁).bind ?_
  intro answer s₂ hs₂
  exact report_ensures hdb id _ (fun _ h => h) answer s₂ hs₂

/-- `UpdateRows`, for a database that executes the statement. -/
lemma updateRows_ensures_of {name : String} {values whereValues : KeyValues}
    {statement : Statement} (hvalues : values ≠ []) (hconditions : whereValues ≠ []) {s : σ}
    (hexecute : ∀ s₁, content s₁ = content s →
      (execute ("UPDATE " ++ name ++ " SET " ++ buildAssignments values ++
        buildWhereSql whereValues)).Ensures db s₁
        fun answer s₂ => Executed faults counting (content s₁) statement answer (content s₂)) :
    (updateRows name values whereValues).Ensures db s fun result s' =>
      Written faults (counting.Reports statement ((content s).view.rows statement.table))
        (content s) statement result (content s') := by
  refine checked_ensures _ (hdb.isConnected s) (by simpa using ⟨hvalues, hconditions⟩)
    (fun h => .failed (.inr h) rfl) ?_
  intro s₁ hs₁
  rw [← hs₁]
  apply (hexecute s₁ hs₁).bind
  intro answer s₂ hs₂
  exact report_ensures hdb id _ (fun _ h => h) answer s₂ hs₂

/-- `UpdateRows` updates the rows, unless they would break the primary key. -/
lemma updateRows_ensures {name : String} {table : TableSchema} (hwords : schema.Wordy)
    (htable : table ∈ schema name) {values whereValues : KeyValues} (hfits : table.Fits values)
    (hwhere : table.Fits whereValues) (hvalues : values ≠ []) (hconditions : whereValues ≠ [])
    (s : σ) :
    (updateRows name values whereValues).Ensures db s fun result s' =>
      Written faults
        (counting.Reports (.update name values (conditionsOf whereValues))
          ((content s).view.rows name))
        (content s) (.update name values (conditionsOf whereValues)) result (content s') := by
  have hcolumns := columns_of_fits hwords htable hfits
  have hread := read_update (hwords name table htable).1 hcolumns hvalues
    (columns_of_fits hwords htable hwhere)
  have hadmits : schema.Admits (.update name values (conditionsOf whereValues)) :=
    ⟨table, htable, hfits, hwhere.sublist List.filter_sublist⟩
  exact updateRows_ensures_of hdb hvalues hconditions
    fun s₁ _ => execute_ensures hdb hread trivial hadmits s₁

/-- `CountRows`, for a database that answers the query.

**Proof sketch.** Without a connection, or without an answer, a failure is reported; otherwise the
count is read off the first row. -/
lemma countRows_ensures_of {name : String} {whereValues : KeyValues} {count : ℤ} {s : σ}
    (hquery : ∀ s₁, content s₁ = content s → Counts faults db content
      ("SELECT COUNT(*) AS cnt FROM " ++ name ++ buildWhereSql whereValues) count s₁) :
    (countRows name whereValues).Ensures db s fun result s' =>
      Queried faults (· = count) result ∧ content s' = content s := by
  refine checked_ensures (fun result session => Queried faults _ result ∧ session = content s)
    (hdb.isConnected s) rfl (fun h => ⟨.failed h, rfl⟩) ?_
  intro s₁ hs₁
  rw [← hs₁]
  apply (hquery s₁ hs₁).bind
  intro answer s₂ hs₂
  obtain ⟨⟨row, rest, rfl, hcount⟩ | ⟨hfaults, rfl⟩, hs₂⟩ := hs₂
  · simp only [assignInt64Field, hcount]
    exact .pure ⟨.answered rfl, hs₂⟩
  · rw [← hs₂]
    exact failed_query_ensures hdb hfaults _ s₂

/-- `CountRows` tells the number of rows. -/
lemma countRows_ensures {name : String} {table : TableSchema} (hwords : schema.Wordy)
    (htable : table ∈ schema name) {whereValues : KeyValues} (hwhere : table.Fits whereValues)
    (s : σ) :
    (countRows name whereValues).Ensures db s fun result s' =>
      Queried faults (· = (((content s).view.select name (conditionsOf whereValues)).length : ℤ))
        result ∧ content s' = content s := by
  have hread := read_count (hwords name table htable).1 (columns_of_fits hwords htable hwhere)
  have hadmits : schema.Admits (.count "cnt" name (conditionsOf whereValues)) :=
    ⟨table, htable, hwhere.sublist List.filter_sublist⟩
  apply countRows_ensures_of hdb
  intro s₁ hs₁
  rw [← hs₁]
  exact hdb.count s₁ _ _ _ _ hread hadmits

/-- `SelectRows`, for a database whose answers to the query have some property. -/
lemma selectRows_ensures_of {name : String} {whereValues : KeyValues}
    {data : List ResultRow → Prop} {s : σ}
    (hquery : ∀ s₁, content s₁ = content s →
      (query ("SELECT * FROM " ++ name ++ buildWhereSql whereValues)).Ensures db s₁ fun answer s₂ =>
        ((∃ results, answer = some results ∧ data results) ∨ (faults ∧ answer = none)) ∧
          content s₂ = content s₁) :
    (selectRows name whereValues).Ensures db s fun result s' =>
      Queried faults data result ∧ content s' = content s := by
  refine checked_ensures (fun result session => Queried faults _ result ∧ session = content s)
    (hdb.isConnected s) rfl (fun h => ⟨.failed h, rfl⟩) ?_
  intro s₁ hs₁
  apply (hquery s₁ hs₁).bind
  intro answer s₂ hs₂
  rw [← hs₁]
  obtain ⟨⟨results, rfl, hrows⟩ | ⟨hfaults, rfl⟩, hs₂⟩ := hs₂
  · exact .pure ⟨.answered hrows, hs₂⟩
  · rw [← hs₂]
    exact failed_query_ensures hdb hfaults _ s₂

/-- `SelectRows` answers with the rows. -/
lemma selectRows_ensures {name : String} {table : TableSchema} (hwords : schema.Wordy)
    (htable : table ∈ schema name) {whereValues : KeyValues} (hwhere : table.Fits whereValues)
    (s : σ) :
    (selectRows name whereValues).Ensures db s fun result s' =>
      Queried faults (Answers (content s).view name (conditionsOf whereValues)) result ∧
        content s' = content s := by
  have hread := read_select (hwords name table htable).1 (columns_of_fits hwords htable hwhere)
  have hadmits : schema.Admits (.select name (conditionsOf whereValues)) :=
    ⟨table, htable, hwhere.sublist List.filter_sublist⟩
  apply selectRows_ensures_of hdb
  intro s₁ hs₁
  rw [← hs₁]
  exact hdb.select s₁ _ _ _ hread hadmits

end

/-- `SelectRows` answers with the rows and their integers.

**Proof sketch.** As for `selectRows_ensures`, with the integers which such a database shows. -/
lemma selectRows_ensures_inFull (hdb : ConformsInFull faults counting db content) {name : String}
    {table : TableSchema} (hwords : schema.Wordy) (htable : table ∈ schema name)
    {whereValues : KeyValues} (hwhere : table.Fits whereValues) (s : σ) :
    (selectRows name whereValues).Ensures db s fun result s' =>
      Queried faults (fun results => ∃ rows : List Row,
        rows.Perm ((content s).view.select name (conditionsOf whereValues)) ∧
        List.Forall₂ (fun row result => Shows table row result ∧ ShowsIntegers table row result)
          rows results) result ∧ content s' = content s := by
  have hread := read_select (hwords name table htable).1 (columns_of_fits hwords htable hwhere)
  have hadmits : schema.Admits (.select name (conditionsOf whereValues)) :=
    ⟨table, htable, hwhere.sublist List.filter_sublist⟩
  apply selectRows_ensures_of hdb.toConforms
  intro s₁ hs₁
  rw [← hs₁]
  obtain ⟨hanswer, hcontent⟩ := hdb.select s₁ _ _ _ hread hadmits
  refine ⟨?_, hcontent⟩
  rcases hanswer with ⟨results, hresults, -⟩ | hfailed
  · exact .inl ⟨results, hresults, hdb.integers s₁ _ _ _ _ hread hadmits hresults table htable⟩
  · exact .inr hfailed

end Dao
