import Mathlib.Data.Int.Notation
import Mathlib.Data.List.Forall2
import QTradeService.Library.Program
import QTradeService.Library.Sql.Tables

set_option relaxedAutoImplicit false
set_option autoImplicit false

/-!
# Database connections

The calls that the services make on `DbConnectionPoolManager` and `IConnection`. The pool and the
driver behind them are not part of the repository: a database is any handler of the calls, and
`Conforms` says what is expected of one, with and without failures.

## Main definitions

* `Database.Call`, `Database.Db` — the calls, and the programs that make them.
* `Database.Counting`, `Database.ReportsFound` — how affected rows are counted.
* `Database.Conforms`, `Database.ConformsInFull` — a database that executes statements as SQL does,
  and shows integers as well.
* `Database.reference`, `Database.changing`, `Database.unreliable` — databases that conform, with
  other counts of affected rows and with failures, for running programs on.

## Main results

* `Database.reference_conforms`, `Database.reference_conformsInFull`,
  `Database.changing_conforms`, `Database.unreliable_conforms`.
-/

namespace Database

open Sql

/-! ## Calls -/

/-- A cell of a result row, with its value as text and as an integer. -/
structure Cell where
  asString : Option String
  asInt64 : Option ℤ
  deriving DecidableEq, Repr

/-- A row of a result set (`IResultRow::get_value`). -/
abbrev ResultRow := String → Option Cell

/-- The calls on the connection pools and on a connection. -/
inductive Call
  | isReady
  | acquire (databaseName : String)
  | isConnected
  | lastError
  | beginTransaction
  | commitTransaction
  | rollbackTransaction
  | execute (sql : String)
  | query (sql : String)
  deriving DecidableEq, Repr

/-- What the calls answer. `Execute` gives the number of affected rows and `Query` the rows of the
result set; both may fail. -/
@[reducible] def Call.Answer : Call → Type
  | .isReady | .acquire _ | .isConnected => Bool
  | .lastError => String
  | .beginTransaction | .commitTransaction | .rollbackTransaction => Bool
  | .execute _ => Option ℤ
  | .query _ => Option (List ResultRow)

/-- Programs that use the database. -/
abbrev Db := Program Call.Answer

/-- `DbConnectionPoolManager::IsReady`. -/
def isReady : Db Bool := Program.request Call.isReady

/-- `DbConnectionPoolManager::Acquire`: whether there is a connection. -/
def acquire (databaseName : String) : Db Bool := Program.request (Call.acquire databaseName)

/-- `IConnection::IsConnected`. -/
def isConnected : Db Bool := Program.request Call.isConnected

/-- The message of `IConnection::LastError`. -/
def lastError : Db String := Program.request Call.lastError

/-- `IConnection::BeginTransaction`. -/
def beginTransaction : Db Bool := Program.request Call.beginTransaction

/-- `IConnection::CommitTransaction`. -/
def commitTransaction : Db Bool := Program.request Call.commitTransaction

/-- `IConnection::RollbackTransaction`, whose result the services ignore. -/
def rollbackTransaction : Db Bool := Program.request Call.rollbackTransaction

/-- `IConnection::Execute`: the number of affected rows. -/
def execute (sql : String) : Db (Option ℤ) := Program.request (Call.execute sql)

/-- `IConnection::Query`: the rows of the result set. -/
def query (sql : String) : Db (Option (List ResultRow)) := Program.request (Call.query sql)

/-! ## What is expected of a database -/

/-- What a database may report as the number of affected rows. It depends on the connection
whether rows count that a statement finds but does not change; no other rows do. -/
structure Counting where
  Reports : Statement → List Row → ℤ → Prop
  eq_zero : ∀ {statement rows affected}, Reports statement rows affected →
    statement.affected rows = 0 → affected = 0

/-- All rows count that the statement is about. -/
def countFound : Counting where
  Reports statement rows affected := affected = statement.affected rows
  eq_zero h hnone := by rw [h, hnone]; rfl

/-- The database does not report zero rows for a statement that finds some. -/
def ReportsFound (counting : Counting) : Prop :=
  ∀ statement rows affected, counting.Reports statement rows affected →
    statement.affected rows ≠ 0 → affected ≠ 0

/-- A database that counts the rows it finds reports them. -/
lemma reportsFound_countFound : ReportsFound countFound := by
  intro statement rows affected hreports hfound
  rw [show affected = statement.affected rows from hreports]
  exact Int.natCast_ne_zero.mpr hfound

/-- The result row shows the text of a row. -/
def Shows (table : TableSchema) (row : Row) (result : ResultRow) : Prop :=
  ∀ column ∈ table.columns, column ∉ table.integers →
    (result column).bind Cell.asString = row column

/-- The result rows show the selected rows, in some order. -/
def Answers {schema : Schema} (store : Store schema) (name : String)
    (conditions : List (String × String)) (results : List ResultRow) : Prop :=
  ∀ table ∈ schema name, ∃ rows : List Row,
    rows.Perm (store.select name conditions) ∧ List.Forall₂ (Shows table) rows results

/-- Every result row shows a selected row. -/
lemma Answers.exists_shows {schema : Schema} {store : Store schema} {name : String}
    {conditions : List (String × String)} {results : List ResultRow}
    (h : Answers store name conditions results) {table : TableSchema} (htable : table ∈ schema name)
    {result : ResultRow} (hresult : result ∈ results) :
    ∃ row ∈ store.select name conditions, Shows table row result := by
  obtain ⟨rows, hperm, hshows⟩ := h table htable
  obtain ⟨i, rfl⟩ := List.mem_iff_get.mp hresult
  have hi : i.val < rows.length := by
    rw [hshows.length_eq]
    exact i.isLt
  exact ⟨rows.get ⟨i, hi⟩, hperm.mem_iff.mp (List.get_mem ..), hshows.get hi i.isLt⟩

/-- A statement that changes rows was executed, or failed. -/
inductive Executed {schema : Schema} (faults : Prop) (counting : Counting)
    (session : Session schema) (statement : Statement) :
    Option ℤ → Session schema → Prop
  | executed {store : Store schema} {affected : ℤ}
      (hexec : session.view.exec statement = some store)
      (hcounting : counting.Reports statement (session.view.rows statement.table) affected) :
      Executed faults counting session statement (some affected) (session.put store)
  | failed {session' : Session schema} (hexec : session.view.exec statement = none ∨ faults)
      (hcommitted : session'.committed = session.committed) :
      Executed faults counting session statement none session'

/-- What is expected of a database. It reads the text of a statement with a doubled quote as the
only escape of a literal, compares text exactly, enforces the primary keys and nothing else, and
publishes the statements of a transaction when it commits. If there are `faults`, any call but a
rollback may fail, and leaves what is committed alone. `content` reads off a state of the database
what it holds. -/
structure Conforms {schema : Schema} {σ : Type} (faults : Prop) (counting : Counting)
    (db : Program.Handler Call.Answer σ) (content : σ → Session schema) : Prop where
  isReady : ∀ s, ((db .isReady s).1 = true ∨ faults) ∧ content (db .isReady s).2 = content s
  acquire : ∀ s databaseName, ((db (.acquire databaseName) s).1 = true ∨ faults) ∧
    content (db (.acquire databaseName) s).2 = content s
  isConnected : ∀ s,
    ((db .isConnected s).1 = true ∨ faults) ∧ content (db .isConnected s).2 = content s
  lastError : ∀ s, content (db .lastError s).2 = content s
  beginTransaction : ∀ s store, content s = ⟨store, none⟩ →
    ((db .beginTransaction s).1 = true ∧
      content (db .beginTransaction s).2 = ⟨store, some store⟩) ∨
    (faults ∧ (db .beginTransaction s).1 = false ∧
      content (db .beginTransaction s).2 = ⟨store, none⟩)
  commitTransaction : ∀ s store working, content s = ⟨store, some working⟩ →
    ((db .commitTransaction s).1 = true ∧ content (db .commitTransaction s).2 = ⟨working, none⟩) ∨
    (faults ∧ (db .commitTransaction s).1 = false ∧
      (content (db .commitTransaction s).2).committed = store)
  rollbackTransaction : ∀ s, content (db .rollbackTransaction s).2 = ⟨(content s).committed, none⟩
  execute : ∀ s sql statement, read sql = some statement → statement.IsWrite →
    schema.Admits statement →
    Executed faults counting (content s) statement (db (.execute sql) s).1
      (content (db (.execute sql) s).2)
  select : ∀ s sql name conditions, read sql = some (.select name conditions) →
    schema.Admits (.select name conditions) →
    ((∃ results, (db (.query sql) s).1 = some results ∧
      Answers (content s).view name conditions results) ∨
      (faults ∧ (db (.query sql) s).1 = none)) ∧
    content (db (.query sql) s).2 = content s
  count : ∀ s sql label name conditions, read sql = some (.count label name conditions) →
    schema.Admits (.count label name conditions) →
    ((∃ row rest, (db (.query sql) s).1 = some (row :: rest) ∧
      (row label).bind Cell.asInt64 = some (((content s).view.select name conditions).length : ℤ)) ∨
      (faults ∧ (db (.query sql) s).1 = none)) ∧
    content (db (.query sql) s).2 = content s

/-- The result row shows the numbers in the integer columns of a row. -/
def ShowsIntegers (table : TableSchema) (row : Row) (result : ResultRow) : Prop :=
  ∀ column ∈ table.integers, (result column).bind Cell.asInt64 = (row column).bind String.toInt?

/-- A database that conforms and also answers with the numbers in the integer columns. -/
structure ConformsInFull {schema : Schema} {σ : Type} (faults : Prop) (counting : Counting)
    (db : Program.Handler Call.Answer σ) (content : σ → Session schema) : Prop
    extends Conforms faults counting db content where
  integers : ∀ s sql name conditions results, read sql = some (.select name conditions) →
    schema.Admits (.select name conditions) → (db (.query sql) s).1 = some results →
    ∀ table ∈ schema name, ∃ rows : List Row,
      rows.Perm ((content s).view.select name conditions) ∧
      List.Forall₂ (fun row result => Shows table row result ∧ ShowsIntegers table row result)
        rows results

/-- What follows a check of the database that fails only if there are faults. The check may be
combined with others, which do not reject.

**Proof sketch.** If the check rejects, there are faults, since it would not reject a success.
Otherwise the rest is run. -/
lemma checked_ensures {schema : Schema} {σ : Type} {db : Program.Handler Call.Answer σ}
    {content : σ → Session schema} {faults : Prop} {α : Type} {check : Db Bool}
    {rejects : Bool → Bool} {rejected : α} {rest : Db α} {s : σ}
    (post : α → Session schema → Prop)
    (hcheck : check.Ensures db s fun passed s' =>
      (passed = true ∨ faults) ∧ content s' = content s)
    (hrejects : rejects true = false) (hrejected : faults → post rejected (content s))
    (hrest : ∀ s', content s' = content s →
      rest.Ensures db s' fun a s'' => post a (content s'')) :
    (check >>= fun passed => if rejects passed = true then pure rejected else rest).Ensures db s
      fun a s' => post a (content s') := by
  apply hcheck.bind
  intro passed s' hs'
  obtain ⟨hpassed, hs'⟩ := hs'
  by_cases hreject : rejects passed = true
  · have hfaults : faults := by
      apply hpassed.resolve_left
      intro htrue
      rw [htrue, hrejects] at hreject
      cases hreject
    rw [if_pos hreject]
    refine .pure ?_
    rw [hs']
    exact hrejected hfaults
  · rw [if_neg hreject]
    exact hrest s' hs'

/-! ## A database that conforms -/

/-- The row with each text as a cell. -/
def showRow (row : Row) : ResultRow :=
  fun column => (row column).map fun text => ⟨some text, text.toInt?⟩

/-- What `reference` does with a statement. -/
def referenceExecute {schema : Schema} (session : Session schema) (statement : Statement) :
    Option ℤ × Session schema :=
  match statement with
  | .select .. | .count .. => (none, session)
  | _ =>
    match session.view.exec statement with
    | none => (none, session)
    | some store =>
      (some (statement.affected (session.view.rows statement.table)), session.put store)

/-- What `reference` answers to a query. -/
def referenceQuery {schema : Schema} (store : Store schema) : Statement → Option (List ResultRow)
  | .select name conditions => some ((store.select name conditions).map showRow)
  | .count label name conditions =>
    some [fun column =>
      if column = label then
        some ⟨none, some ((store.select name conditions).length : ℤ)⟩
      else none]
  | _ => none

/-- A database that is its own content. -/
def reference (schema : Schema) : Program.Handler Call.Answer (Session schema)
  | .isReady, s => (true, s)
  | .acquire _, s => (true, s)
  | .isConnected, s => (true, s)
  | .lastError, s => ("", s)
  | .beginTransaction, s =>
    match s.working with
    | none => (true, ⟨s.committed, some s.committed⟩)
    | some _ => (false, s)
  | .commitTransaction, s =>
    match s.working with
    | none => (false, s)
    | some working => (true, ⟨working, none⟩)
  | .rollbackTransaction, s => (s.working.isSome, ⟨s.committed, none⟩)
  | .execute sql, s =>
    match read sql with
    | none => (none, s)
    | some statement => referenceExecute s statement
  | .query sql, s => ((read sql).bind (referenceQuery s.view), s)

/-- What `reference` does with a statement.

**Proof sketch.** By whether the statement can be executed, and by its kind. -/
lemma executed_referenceExecute {schema : Schema} (session : Session schema)
    {statement : Statement} (hwrite : statement.IsWrite) :
    Executed False countFound session statement (referenceExecute session statement).1
      (referenceExecute session statement).2 := by
  cases hexec : session.view.exec statement with
  | none =>
    have hrun : referenceExecute session statement = (none, session) := by
      cases statement with
      | insert | update | delete => simp only [referenceExecute, hexec]
      | select | count => rfl
    rw [hrun]
    exact .failed (.inl hexec) rfl
  | some store =>
    have hrun : referenceExecute session statement =
        (some (statement.affected (session.view.rows statement.table) : ℤ), session.put store) := by
      cases statement with
      | insert | update | delete => simp only [referenceExecute, hexec]
      | select | count => exact hwrite.elim
    rw [hrun]
    exact .executed hexec rfl

/-- A row is shown as it is. -/
lemma shows_showRow (table : TableSchema) (row : Row) : Shows table row (showRow row) := by
  intro column _ _
  unfold showRow
  cases row column <;> rfl

/-- What `reference` answers when it selects rows. -/
lemma reference_select {schema : Schema} (s : Session schema) {sql name : String}
    {conditions : List (String × String)} (hread : read sql = some (.select name conditions)) :
    ∃ results, (reference schema (.query sql) s).1 = some results ∧
      Answers s.view name conditions results := by
  refine ⟨(s.view.select name conditions).map showRow, ?_, fun table _ => ?_⟩
  · simp only [reference, hread, Option.bind_some, referenceQuery]
  · refine ⟨s.view.select name conditions, List.Perm.refl _, ?_⟩
    rw [List.forall₂_map_right_iff, List.forall₂_same]
    exact fun row _ => shows_showRow table row

/-- What `reference` answers when it counts rows. -/
lemma reference_count {schema : Schema} (s : Session schema) {sql label name : String}
    {conditions : List (String × String)}
    (hread : read sql = some (.count label name conditions)) :
    ∃ row rest, (reference schema (.query sql) s).1 = some (row :: rest) ∧
      (row label).bind Cell.asInt64 = some ((s.view.select name conditions).length : ℤ) := by
  have hrun : (reference schema (.query sql) s).1 = some [fun column =>
      if column = label then
        some ⟨none, some ((s.view.select name conditions).length : ℤ)⟩
      else none] := by
    simp only [reference, hread, Option.bind_some, referenceQuery]
  exact ⟨_, [], hrun, by simp⟩

/-- What `reference` does when it executes a statement. -/
lemma executed_reference {schema : Schema} (s : Session schema) {sql : String}
    {statement : Statement} (hread : read sql = some statement) (hwrite : statement.IsWrite) :
    Executed False countFound s statement (reference schema (.execute sql) s).1
      (reference schema (.execute sql) s).2 := by
  have hrun : reference schema (.execute sql) s = referenceExecute s statement := by
    simp only [reference, hread]
  rw [hrun]
  exact executed_referenceExecute s hwrite

/-- The database that is its own content conforms. -/
theorem reference_conforms (schema : Schema) :
    Conforms False countFound (reference schema) (id : Session schema → Session schema) where
  isReady s := ⟨.inl rfl, rfl⟩
  acquire s databaseName := ⟨.inl rfl, rfl⟩
  isConnected s := ⟨.inl rfl, rfl⟩
  lastError s := rfl
  beginTransaction s store hs := by
    obtain rfl : s = ⟨store, none⟩ := hs
    exact .inl ⟨rfl, rfl⟩
  commitTransaction s store working hs := by
    obtain rfl : s = ⟨store, some working⟩ := hs
    exact .inl ⟨rfl, rfl⟩
  rollbackTransaction s := rfl
  execute s sql statement hread hwrite _ := executed_reference s hread hwrite
  select s sql name conditions hread _ := ⟨.inl (reference_select s hread), rfl⟩
  count s sql label name conditions hread _ := ⟨.inl (reference_count s hread), rfl⟩

/-! ## A database that counts changed rows -/

/-- The number of rows that the statement changes. -/
def changedRows (statement : Statement) (rows : List Row) : ℕ :=
  match statement with
  | .update _ assignments conditions =>
    rows.countP fun row => row.satisfies conditions && !row.satisfies assignments
  | _ => statement.affected rows

/-- No more rows are changed than the statement is about. -/
lemma changedRows_le (statement : Statement) (rows : List Row) :
    changedRows statement rows ≤ statement.affected rows := by
  cases statement with
  | insert | delete | select | count => exact Nat.le_refl _
  | update name assignments conditions =>
    refine List.countP_mono_left fun row _ hrow => ?_
    simp only [Bool.and_eq_true] at hrow
    exact hrow.1

/-- Rows do not count that a statement finds but does not change. -/
def countChanged : Counting where
  Reports statement rows affected := affected = changedRows statement rows
  eq_zero {statement rows affected} h hnone := by
    have hle := changedRows_le statement rows
    omega

/-- The database `reference`, counting changed rows. -/
def changing (schema : Schema) : Program.Handler Call.Answer (Session schema)
  | .execute sql, s =>
    ((reference schema (.execute sql) s).1.bind fun _ => (read sql).map fun statement =>
      (changedRows statement (s.view.rows statement.table) : ℤ),
      (reference schema (.execute sql) s).2)
  | call, s => reference schema call s

/-- The database that counts changed rows conforms.

**Proof sketch.** It differs from `reference` only in the count of a statement that was executed. -/
theorem changing_conforms (schema : Schema) :
    Conforms False countChanged (changing schema) (id : Session schema → Session schema) where
  isReady := (reference_conforms schema).isReady
  acquire := (reference_conforms schema).acquire
  isConnected := (reference_conforms schema).isConnected
  lastError := (reference_conforms schema).lastError
  beginTransaction := (reference_conforms schema).beginTransaction
  commitTransaction := (reference_conforms schema).commitTransaction
  rollbackTransaction := (reference_conforms schema).rollbackTransaction
  execute s sql statement hread hwrite hadmits := by
    have hexecuted := (reference_conforms schema).execute s sql statement hread hwrite hadmits
    show Executed False countChanged s statement
      ((reference schema (.execute sql) s).1.bind fun _ => (read sql).map _)
      (reference schema (.execute sql) s).2
    generalize (reference schema (.execute sql) s).1 = answer at hexecuted ⊢
    generalize hsession : (reference schema (.execute sql) s).2 = session at hexecuted ⊢
    cases hexecuted with
    | executed hexec _ =>
      rw [hread]
      exact .executed hexec rfl
    | failed hexec hcommitted => exact .failed hexec hcommitted
  select := (reference_conforms schema).select
  count := (reference_conforms schema).count

/-! ## A database whose calls fail -/

/-- The answer of a call that failed. -/
def Call.failure : (call : Call) → call.Answer
  | .isReady | .acquire _ | .isConnected => false
  | .lastError => ""
  | .beginTransaction | .commitTransaction | .rollbackTransaction => false
  | .execute _ => none
  | .query _ => none

/-- The database `reference` with failures: the plan tells of each of the next calls whether it
fails. A failed call does nothing; a rollback does not fail. -/
def unreliable (schema : Schema) :
    Program.Handler Call.Answer (Session schema × List Bool) := fun call s =>
  if call ≠ .rollbackTransaction ∧ s.2.headD false = true then
    (call.failure, s.1, s.2.tail)
  else
    ((reference schema call s.1).1, (reference schema call s.1).2, s.2.tail)

/-- A call fails and does nothing, or does what it does without failures. -/
lemma unreliable_cases {schema : Schema} (call : Call) (s : Session schema × List Bool) :
    ∃ plan, unreliable schema call s = (call.failure, s.1, plan) ∨
      unreliable schema call s =
        ((reference schema call s.1).1, (reference schema call s.1).2, plan) := by
  unfold unreliable
  split
  · exact ⟨_, .inl rfl⟩
  · exact ⟨_, .inr rfl⟩

/-- What a statement does without failures, it may do with failures. -/
lemma Executed.weaken {schema : Schema} {faults : Prop} {counting : Counting}
    {session session' : Session schema} {statement : Statement} {answer : Option ℤ}
    (h : Executed False counting session statement answer session') :
    Executed faults counting session statement answer session' := by
  cases h with
  | executed hexec hcounting => exact .executed hexec hcounting
  | failed hexec hcommitted => exact .failed (.inl (hexec.resolve_right id)) hcommitted

/-- The database whose calls fail conforms, up to the failures.

**Proof sketch.** Every call fails by plan, which a faulty database may do, or does what `reference`
does. -/
theorem unreliable_conforms (schema : Schema) :
    Conforms True countFound (unreliable schema) (Prod.fst : _ → Session schema) where
  isReady s := by
    obtain ⟨plan, h | h⟩ := unreliable_cases .isReady s <;> simp [h, reference]
  acquire s databaseName := by
    obtain ⟨plan, h | h⟩ := unreliable_cases (.acquire databaseName) s <;> simp [h, reference]
  isConnected s := by
    obtain ⟨plan, h | h⟩ := unreliable_cases .isConnected s <;> simp [h, reference]
  lastError s := by
    obtain ⟨plan, h | h⟩ := unreliable_cases .lastError s <;> simp [h, reference]
  beginTransaction s store hs := by
    obtain ⟨plan, h | h⟩ := unreliable_cases .beginTransaction s
    · exact .inr ⟨trivial, by rw [h]; rfl, by rw [h]; exact hs⟩
    · rw [h]
      exact .inl (((reference_conforms schema).beginTransaction s.1 store hs).resolve_right
        fun hfailed => hfailed.1)
  commitTransaction s store working hs := by
    obtain ⟨plan, h | h⟩ := unreliable_cases .commitTransaction s
    · exact .inr ⟨trivial, by rw [h]; rfl, by rw [h]; exact congrArg Session.committed hs⟩
    · rw [h]
      exact .inl (((reference_conforms schema).commitTransaction s.1 store working hs).resolve_right
        fun hfailed => hfailed.1)
  rollbackTransaction s := rfl
  execute s sql statement hread hwrite hadmits := by
    obtain ⟨plan, h | h⟩ := unreliable_cases (.execute sql) s
    · rw [h]
      exact .failed (.inr trivial) rfl
    · rw [h]
      exact ((reference_conforms schema).execute s.1 sql statement hread hwrite hadmits).weaken
  select s sql name conditions hread hadmits := by
    obtain ⟨plan, h | h⟩ := unreliable_cases (.query sql) s
    · rw [h]
      exact ⟨.inr ⟨trivial, rfl⟩, rfl⟩
    · have hselect := (reference_conforms schema).select s.1 sql name conditions hread hadmits
      rw [h]
      exact ⟨.inl (hselect.1.resolve_right fun hfailed => hfailed.1), hselect.2⟩
  count s sql label name conditions hread hadmits := by
    obtain ⟨plan, h | h⟩ := unreliable_cases (.query sql) s
    · rw [h]
      exact ⟨.inr ⟨trivial, rfl⟩, rfl⟩
    · have hcount := (reference_conforms schema).count s.1 sql label name conditions hread hadmits
      rw [h]
      exact ⟨.inl (hcount.1.resolve_right fun hfailed => hfailed.1), hcount.2⟩

/-- The database that is its own content shows integers as well. -/
theorem reference_conformsInFull (schema : Schema) :
    ConformsInFull False countFound (reference schema) (id : Session schema → Session schema) where
  toConforms := reference_conforms schema
  integers s sql name conditions results hread _ hresults table _ := by
    have hrun : (reference schema (.query sql) s).1 =
        some ((s.view.select name conditions).map showRow) := by
      simp only [reference, hread, Option.bind_some, referenceQuery]
    obtain rfl := Option.some.inj (hresults.symm.trans hrun)
    refine ⟨s.view.select name conditions, List.Perm.refl _, ?_⟩
    rw [List.forall₂_map_right_iff, List.forall₂_same]
    intro row _
    refine ⟨shows_showRow table row, fun column _ => ?_⟩
    unfold showRow
    cases row column <;> rfl

/-- So does the database that counts changed rows. -/
theorem changing_conformsInFull (schema : Schema) :
    ConformsInFull False countChanged (changing schema)
      (id : Session schema → Session schema) where
  toConforms := changing_conforms schema
  integers := (reference_conformsInFull schema).integers

end Database
