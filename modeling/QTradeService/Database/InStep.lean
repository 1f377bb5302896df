import QTradeService.Database.Transactions
import QTradeService.Library.Coupling
import QTradeService.Library.Sql.Secrets

set_option relaxedAutoImplicit false
set_option autoImplicit false

/-!
# Two runs on a database

Two runs that make the same calls, but for texts in secret columns, on a database whose failures
do not depend on the data. All calls fail alike, what is stored differs in the secret columns
only, and so do the answers.

## Main definitions

* `Database.Blind` — the failures of a database and the order of its answers do not depend on the
  data.
* `Database.CountsInStep` — the numbers of affected rows do not either.
* `Database.inStep` — the calls of the two runs, and what they are answered.
* `Database.SessionsInStep` — what is stored in the two runs.

## Main results

* `Database.inStep_step` — calls in step are answered in step.
* `Database.changing_blind`, `Database.unreliable_blind` — databases whose failures do not depend
  on the data.
-/

namespace Database

open Sql Program

/-! ## Failures -/

/-- The call is answered with a failure. The answer of a rollback does not matter. -/
def failed : (call : Call) → call.Answer → Bool
  | .isReady, answer | .acquire _, answer | .isConnected, answer => !answer
  | .beginTransaction, answer | .commitTransaction, answer => !answer
  | .execute _, answer => answer.isNone
  | .query _, answer => answer.isNone
  | .lastError, _ | .rollbackTransaction, _ => false

/-- Calls that differ in the values of a statement only. -/
inductive SameForm : Call → Call → Prop
  | same (call : Call) : SameForm call call
  | execute {sql sql' : String} {statement statement' : Statement}
      (hread : read sql = some statement) (hread' : read sql' = some statement')
      (hform : Secrecy.SameForm statement statement') : SameForm (.execute sql) (.execute sql')

/-- The rows accept the statement of the call. -/
def Accepted {schema : Schema} (session : Session schema) : Call → Prop
  | .execute sql => ∀ statement ∈ read sql, session.view.exec statement ≠ none
  | .isReady | .acquire _ | .isConnected | .lastError | .beginTransaction | .commitTransaction
  | .rollbackTransaction | .query _ => True

/-- What a database does beside storing rows depends on an environment and not on the data: which
calls fail, apart from statements that the rows do not accept, and in which order the rows of a
table are listed. `environment` reads off a state of the database what its environment is. -/
structure Blind {schema : Schema} {σ E : Type} (db : Program.Handler Call.Answer σ)
    (content : σ → Session schema) (environment : σ → E) : Prop where
  failures : ∀ {call call' s t}, SameForm call call' → environment s = environment t →
    (Accepted (content s) call ↔ Accepted (content t) call') →
    failed call (db call s).1 = failed call' (db call' t).1 ∧
      environment (db call s).2 = environment (db call' t).2
  order : ∀ {s t sql name conditions results results'},
    read sql = some (.select name conditions) → environment s = environment t →
    (content s).view.rows name = (content t).view.rows name →
    (db (.query sql) s).1 = some results → (db (.query sql) t).1 = some results' →
    ∀ table ∈ schema name, ∃ rows : List Row,
      rows.Perm ((content s).view.select name conditions) ∧
      List.Forall₂ (Shows table) rows results ∧ List.Forall₂ (Shows table) rows results'

/-- Whether the database reports zero affected rows does not depend on secret texts. -/
def CountsInStep (secrecy : Secrecy) (counting : Counting) : Prop :=
  ∀ {statement statement' rows rows' affected affected'},
    secrecy.Statements statement statement' →
    List.Forall₂ (secrecy.Rows statement.table) rows rows' →
    counting.Reports statement rows affected → counting.Reports statement' rows' affected' →
    (affected = 0 ↔ affected' = 0)

/-- A database that reports the rows it finds tells nothing by their number. -/
lemma ReportsFound.countsInStep {counting : Counting} (h : ReportsFound counting)
    (secrecy : Secrecy) : CountsInStep secrecy counting := by
  intro statement statement' rows rows' affected affected' halike hrows hreports hreports'
  have hzero {statement rows affected} (hreports : counting.Reports statement rows affected) :
      affected = 0 ↔ statement.affected rows = 0 := by
    constructor
    · intro hzero
      by_contra hsome
      exact h statement rows affected hreports hsome hzero
    · exact counting.eq_zero hreports
  rw [hzero hreports, hzero hreports', halike.affected hrows]

/-! ## Calls in step -/

/-- How far two runs are with their transactions. -/
inductive Stage
  | idle
  | writing
  /-- A statement or the commit has failed. -/
  | broken
  deriving DecidableEq

section

variable (schema : Schema) (secrecy : Secrecy)

/-- The rows that are selected are all alike as they are, or there is one at most. -/
def Listed (name : String) (conditions : List (String × String)) : Prop :=
  (∀ column, secrecy.Public name column) ∨
    ∀ table ∈ schema name, ∀ column ∈ table.primaryKey, column ∈ conditions.map Prod.fst

/-- The calls of two runs. -/
inductive CallsInStep : Stage → Call → Call → Prop
  | isReady (stage : Stage) : CallsInStep stage .isReady .isReady
  | acquire (stage : Stage) (databaseName : String) :
      CallsInStep stage (.acquire databaseName) (.acquire databaseName)
  | isConnected (stage : Stage) : CallsInStep stage .isConnected .isConnected
  | lastError (stage : Stage) : CallsInStep stage .lastError .lastError
  | beginTransaction : CallsInStep .idle .beginTransaction .beginTransaction
  | commitTransaction : CallsInStep .writing .commitTransaction .commitTransaction
  | rollbackTransaction (stage : Stage) :
      CallsInStep stage .rollbackTransaction .rollbackTransaction
  | execute {sql sql' : String} {statement statement' : Statement}
      (hreadable : Readable schema sql statement) (hreadable' : Readable schema sql' statement')
      (hwrite : statement.IsWrite) (hwrite' : statement'.IsWrite)
      (halike : secrecy.Statements statement statement') :
      CallsInStep .writing (.execute sql) (.execute sql')
  | select {stage : Stage} {sql name : String} {conditions : List (String × String)}
      (hstage : stage ≠ .broken) (hreadable : Readable schema sql (.select name conditions))
      (hopen : secrecy.Open name conditions) (hlisted : Listed schema secrecy name conditions) :
      CallsInStep stage (.query sql) (.query sql)
  | count {stage : Stage} {sql label name : String} {conditions : List (String × String)}
      (hstage : stage ≠ .broken) (hreadable : Readable schema sql (.count label name conditions))
      (hopen : secrecy.Open name conditions) :
      CallsInStep stage (.query sql) (.query sql)

/-- The answers in two runs, and the stage they lead to. -/
inductive AnswersInStep : Stage → (call call' : Call) → call.Answer → call'.Answer → Stage → Prop
  | isReady (stage : Stage) (ready : Bool) :
      AnswersInStep stage .isReady .isReady ready ready stage
  | acquire (stage : Stage) (databaseName : String) (acquired : Bool) :
      AnswersInStep stage (.acquire databaseName) (.acquire databaseName) acquired acquired stage
  | isConnected (stage : Stage) (connected : Bool) :
      AnswersInStep stage .isConnected .isConnected connected connected stage
  | lastError (stage : Stage) (message message' : String) :
      AnswersInStep stage .lastError .lastError message message' stage
  | begun : AnswersInStep .idle .beginTransaction .beginTransaction true true .writing
  | notBegun : AnswersInStep .idle .beginTransaction .beginTransaction false false .idle
  | committed : AnswersInStep .writing .commitTransaction .commitTransaction true true .idle
  | notCommitted : AnswersInStep .writing .commitTransaction .commitTransaction false false .broken
  | rolledBack (stage : Stage) (reported reported' : Bool) :
      AnswersInStep stage .rollbackTransaction .rollbackTransaction reported reported' .idle
  | executed {sql sql' : String} {affected affected' : ℤ}
      (haffected : affected = 0 ↔ affected' = 0) :
      AnswersInStep .writing (.execute sql) (.execute sql') (some affected) (some affected')
        .writing
  | notExecuted {sql sql' : String} :
      AnswersInStep .writing (.execute sql) (.execute sql') none none .broken
  | selected {stage : Stage} {sql name : String} {conditions : List (String × String)}
      {results results' : List ResultRow} (hread : read sql = some (.select name conditions))
      (halike : ∀ table ∈ schema name, ∃ rows rows' : List Row,
        List.Forall₂ (secrecy.Rows name) rows rows' ∧ List.Forall₂ (Shows table) rows results ∧
          List.Forall₂ (Shows table) rows' results') :
      AnswersInStep stage (.query sql) (.query sql) (some results) (some results') stage
  | counted {stage : Stage} {sql label name : String} {conditions : List (String × String)}
      {row row' : ResultRow} {rest rest' : List ResultRow}
      (hread : read sql = some (.count label name conditions))
      (hcount : (row label).bind Cell.asInt64 = (row' label).bind Cell.asInt64) :
      AnswersInStep stage (.query sql) (.query sql) (some (row :: rest)) (some (row' :: rest'))
        stage
  | notQueried (stage : Stage) (sql : String) :
      AnswersInStep stage (.query sql) (.query sql) none none stage

/-- Two runs in step. -/
def inStep : Coupling Call.Answer Stage where
  calls := CallsInStep schema secrecy
  answers := AnswersInStep schema secrecy

end

/-! ## Stores in step -/

/-- What is stored in two runs. -/
inductive SessionsInStep {schema : Schema} (secrecy : Secrecy) :
    Stage → Session schema → Session schema → Prop
  | idle {store store' : Store schema} (hstore : secrecy.Stores store store') :
      SessionsInStep secrecy .idle ⟨store, none⟩ ⟨store', none⟩
  | writing {store store' working working' : Store schema} (hstore : secrecy.Stores store store')
      (hworking : secrecy.Stores working working') :
      SessionsInStep secrecy .writing ⟨store, some working⟩ ⟨store', some working'⟩
  | broken {session session' : Session schema}
      (hstore : secrecy.Stores session.committed session'.committed) :
      SessionsInStep secrecy .broken session session'

section

variable {schema : Schema} {secrecy : Secrecy} {stage : Stage} {session session' : Session schema}

/-- What is committed is alike. -/
lemma SessionsInStep.committed (h : SessionsInStep secrecy stage session session') :
    secrecy.Stores session.committed session'.committed := by
  cases h <;> assumption

/-- What the next statement sees is alike, as long as none has failed. -/
lemma SessionsInStep.view (h : SessionsInStep secrecy stage session session')
    (hstage : stage ≠ .broken) : secrecy.Stores session.view session'.view := by
  cases h with
  | idle hstore => exact hstore
  | writing _ hworking => exact hworking
  | broken => exact absurd rfl hstage

end

/-! ## Steps -/

section

variable {schema : Schema} {σ E : Type} {db : Program.Handler Call.Answer σ}
  {content : σ → Session schema} {environment : σ → E} {secrecy : Secrecy} {stage : Stage}
  {faults : Prop} {counting : Counting} {s t : σ}

/-- Two states of a database that cannot be told apart. -/
structure InStep (content : σ → Session schema) (environment : σ → E) (secrecy : Secrecy)
    (stage : Stage) (s t : σ) : Prop where
  environment : environment s = environment t
  content : SessionsInStep secrecy stage (content s) (content t)

/-- A transaction begins in both runs, or in none.

**Proof sketch.** Both runs begin or fail; that one begins and the other fails is excluded, as
failures do not depend on the data. -/
lemma inStep_begin (hdb : Conforms faults counting db content)
    (hblind : Blind db content environment) (h : InStep content environment secrecy .idle s t) :
    ∃ stage', AnswersInStep schema secrecy .idle .beginTransaction .beginTransaction
        (db .beginTransaction s).1 (db .beginTransaction t).1 stage' ∧
      InStep content environment secrecy stage' (db .beginTransaction s).2
        (db .beginTransaction t).2 := by
  obtain ⟨hfailed, henv⟩ := hblind.failures (.same .beginTransaction) h.environment Iff.rfl
  obtain ⟨store, store', hs, ht, hstore⟩ : ∃ store store', content s = ⟨store, none⟩ ∧
      content t = ⟨store', none⟩ ∧ secrecy.Stores store store' := by
    have hcontent := h.content
    generalize content s = session at hcontent
    generalize content t = session' at hcontent
    cases hcontent with
    | idle hstore => exact ⟨_, _, rfl, rfl, hstore⟩
  rcases hdb.beginTransaction s store hs with ⟨hbegun, hs'⟩ | ⟨-, hbegun, hs'⟩ <;>
    rcases hdb.beginTransaction t store' ht with ⟨hbegun', ht'⟩ | ⟨-, hbegun', ht'⟩
  · rw [hbegun, hbegun']
    refine ⟨.writing, .begun, henv, ?_⟩
    rw [hs', ht']
    exact .writing hstore hstore
  · rw [hbegun, hbegun'] at hfailed
    cases hfailed
  · rw [hbegun, hbegun'] at hfailed
    cases hfailed
  · rw [hbegun, hbegun']
    refine ⟨.idle, .notBegun, henv, ?_⟩
    rw [hs', ht']
    exact .idle hstore

/-- What is stored while a transaction is open in both runs. -/
lemma InStep.writing (h : InStep content environment secrecy .writing s t) :
    ∃ store store' working working', content s = ⟨store, some working⟩ ∧
      content t = ⟨store', some working'⟩ ∧ secrecy.Stores store store' ∧
      secrecy.Stores working working' := by
  have hcontent := h.content
  generalize content s = session at hcontent
  generalize content t = session' at hcontent
  cases hcontent with
  | writing hstore hworking => exact ⟨_, _, _, _, rfl, rfl, hstore, hworking⟩

/-- A transaction is committed in both runs, or in none.

**Proof sketch.** As for `inStep_begin`. If both succeed, the working tables are committed, and
these are alike. -/
lemma inStep_commit (hdb : Conforms faults counting db content)
    (hblind : Blind db content environment) (h : InStep content environment secrecy .writing s t) :
    ∃ stage', AnswersInStep schema secrecy .writing .commitTransaction .commitTransaction
        (db .commitTransaction s).1 (db .commitTransaction t).1 stage' ∧
      InStep content environment secrecy stage' (db .commitTransaction s).2
        (db .commitTransaction t).2 := by
  obtain ⟨hfailed, henv⟩ := hblind.failures (.same .commitTransaction) h.environment Iff.rfl
  obtain ⟨store, store', working, working', hs, ht, hstore, hworking⟩ := h.writing
  rcases hdb.commitTransaction s store working hs with ⟨hdone, hs'⟩ | ⟨-, hdone, hs'⟩ <;>
    rcases hdb.commitTransaction t store' working' ht with ⟨hdone', ht'⟩ | ⟨-, hdone', ht'⟩
  · rw [hdone, hdone']
    refine ⟨.idle, .committed, henv, ?_⟩
    rw [hs', ht']
    exact .idle hworking
  · rw [hdone, hdone'] at hfailed
    cases hfailed
  · rw [hdone, hdone'] at hfailed
    cases hfailed
  · rw [hdone, hdone']
    refine ⟨.broken, .notCommitted, henv, .broken ?_⟩
    rw [hs', ht']
    exact hstore

/-- Alike statements are executed in both runs, or in none.

**Proof sketch.** Alike statements are accepted by the tables of both runs or of none, since no key
is secret. So they are executed in both or in none. -/
lemma inStep_execute (hdb : Conforms faults counting db content)
    (hcounts : CountsInStep secrecy counting) (hblind : Blind db content environment)
    (hkeys : ∀ name, ∀ table ∈ schema name, ∀ column ∈ table.primaryKey,
      secrecy.Public name column)
    {sql sql' : String} {statement statement' : Statement}
    (hreadable : Readable schema sql statement) (hreadable' : Readable schema sql' statement')
    (hwrite : statement.IsWrite) (hwrite' : statement'.IsWrite)
    (halike : secrecy.Statements statement statement')
    (h : InStep content environment secrecy .writing s t) :
    ∃ stage', AnswersInStep schema secrecy .writing (.execute sql) (.execute sql')
        (db (.execute sql) s).1 (db (.execute sql') t).1 stage' ∧
      InStep content environment secrecy stage' (db (.execute sql) s).2
        (db (.execute sql') t).2 := by
  have hviews := h.content.view (by decide)
  have hexec := hviews.exec hkeys halike
  have haccepted : Accepted (content s) (.execute sql) ↔ Accepted (content t) (.execute sql') := by
    simp only [Accepted, hreadable.1, hreadable'.1, Option.mem_def, Option.some.injEq, forall_eq']
    generalize (content s).view.exec statement = store at hexec
    generalize (content t).view.exec statement' = store' at hexec
    cases hexec <;> simp
  obtain ⟨hfailed, henv⟩ := hblind.failures
    (.execute hreadable.1 hreadable'.1 halike.sameForm) h.environment haccepted
  have hs := hdb.execute s sql statement hreadable.1 hwrite hreadable.2
  have ht := hdb.execute t sql' statement' hreadable'.1 hwrite' hreadable'.2
  generalize (db (.execute sql) s).1 = answer at hs hfailed ⊢
  generalize (db (.execute sql') t).1 = answer' at ht hfailed ⊢
  generalize hsession : content (db (.execute sql) s).2 = session at hs
  generalize hsession' : content (db (.execute sql') t).2 = session' at ht
  cases hs with
  | @executed store affected hstore hreports =>
    cases ht with
    | failed => cases hfailed
    | @executed store' affected' hstore' hreports' =>
      rw [hstore, hstore'] at hexec
      cases hexec with
      | some hstores =>
        refine ⟨.writing, .executed ?_, henv, ?_⟩
        · rw [← halike.table] at hreports'
          exact hcounts halike (hviews statement.table) hreports hreports'
        · rw [hsession, hsession']
          obtain ⟨_, _, _, _, hs, ht, hcommitted, -⟩ := h.writing
          rw [hs, ht]
          exact .writing hcommitted hstores
  | failed _ hcommitted =>
    cases ht with
    | executed => cases hfailed
    | failed _ hcommitted' =>
      refine ⟨.broken, .notExecuted, henv, .broken ?_⟩
      rw [hsession, hsession', hcommitted, hcommitted']
      exact h.content.committed

/-- There is one order of one row. -/
lemma eq_of_perm {rows rows' : List Row} (h : rows.Perm rows') (hlength : rows'.length ≤ 1) :
    rows = rows' := by
  match rows' with
  | [] => exact List.perm_nil.mp h
  | [row] => exact List.perm_singleton.mp h
  | _ :: _ :: _ => simp at hlength

/-- Alike rows are selected in both runs, or the selection fails in both.

**Proof sketch.** The rows that match are alike. If the table is public, both databases list them in
the same order, and otherwise there is one of them at most. -/
lemma inStep_select (hdb : Conforms faults counting db content)
    (hblind : Blind db content environment) {sql name : String}
    {conditions : List (String × String)} (hstage : stage ≠ .broken)
    (hreadable : Readable schema sql (.select name conditions))
    (hopen : secrecy.Open name conditions) (hlisted : Listed schema secrecy name conditions)
    (h : InStep content environment secrecy stage s t) :
    ∃ stage', AnswersInStep schema secrecy stage (.query sql) (.query sql) (db (.query sql) s).1
        (db (.query sql) t).1 stage' ∧
      InStep content environment secrecy stage' (db (.query sql) s).2 (db (.query sql) t).2 := by
  have hviews := h.content.view hstage
  obtain ⟨hfailed, henv⟩ := hblind.failures (.same (.query sql)) h.environment Iff.rfl
  obtain ⟨hs, hs'⟩ := hdb.select s sql name conditions hreadable.1 hreadable.2
  obtain ⟨ht, ht'⟩ := hdb.select t sql name conditions hreadable.1 hreadable.2
  have hafter : InStep content environment secrecy stage (db (.query sql) s).2
      (db (.query sql) t).2 := by
    refine ⟨henv, ?_⟩
    rw [hs', ht']
    exact h.content
  refine ⟨stage, ?_, hafter⟩
  rcases hs with ⟨results, hresults, hanswers⟩ | ⟨-, hnone⟩ <;>
    rcases ht with ⟨results', hresults', hanswers'⟩ | ⟨-, hnone'⟩
  · rw [hresults, hresults']
    refine .selected hreadable.1 fun table htable => ?_
    rcases hlisted with hpublic | hkey
    · -- the table is the same in both runs, and so is the order of its rows
      have hrows := Secrecy.rows_eq_of_public (hviews name) hpublic
      obtain ⟨rows, -, hshows, hshows'⟩ := hblind.order hreadable.1 h.environment hrows hresults
        hresults' table htable
      exact ⟨rows, rows, List.forall₂_same.mpr fun row _ => .refl row, hshows, hshows'⟩
    · -- there is one row at most
      obtain ⟨rows, hperm, hshows⟩ := hanswers table htable
      obtain ⟨rows', hperm', hshows'⟩ := hanswers' table htable
      have hone := (content s).view.length_select_le_one htable (hkey table htable)
      have hone' := (content t).view.length_select_le_one htable (hkey table htable)
      obtain rfl := eq_of_perm hperm hone
      obtain rfl := eq_of_perm hperm' hone'
      exact ⟨_, _, hviews.select hopen, hshows, hshows'⟩
  · rw [hresults, hnone'] at hfailed
    cases hfailed
  · rw [hnone, hresults'] at hfailed
    cases hfailed
  · rw [hnone, hnone']
    exact .notQueried stage sql

/-- The same number of rows is counted in both runs, or the count fails in both.

**Proof sketch.** As many rows match in both runs. -/
lemma inStep_count (hdb : Conforms faults counting db content)
    (hblind : Blind db content environment) {sql label name : String}
    {conditions : List (String × String)} (hstage : stage ≠ .broken)
    (hreadable : Readable schema sql (.count label name conditions))
    (hopen : secrecy.Open name conditions) (h : InStep content environment secrecy stage s t) :
    ∃ stage', AnswersInStep schema secrecy stage (.query sql) (.query sql) (db (.query sql) s).1
        (db (.query sql) t).1 stage' ∧
      InStep content environment secrecy stage' (db (.query sql) s).2 (db (.query sql) t).2 := by
  have hviews := h.content.view hstage
  obtain ⟨hfailed, henv⟩ := hblind.failures (.same (.query sql)) h.environment Iff.rfl
  obtain ⟨hs, hs'⟩ := hdb.count s sql label name conditions hreadable.1 hreadable.2
  obtain ⟨ht, ht'⟩ := hdb.count t sql label name conditions hreadable.1 hreadable.2
  have hafter : InStep content environment secrecy stage (db (.query sql) s).2
      (db (.query sql) t).2 := by
    refine ⟨henv, ?_⟩
    rw [hs', ht']
    exact h.content
  refine ⟨stage, ?_, hafter⟩
  rcases hs with ⟨row, rest, hresults, hcount⟩ | ⟨-, hnone⟩ <;>
    rcases ht with ⟨row', rest', hresults', hcount'⟩ | ⟨-, hnone'⟩
  · rw [hresults, hresults']
    refine .counted hreadable.1 ?_
    rw [hcount, hcount', (hviews.select hopen).length_eq]
  · rw [hresults, hnone'] at hfailed
    cases hfailed
  · rw [hnone, hresults'] at hfailed
    cases hfailed
  · rw [hnone, hnone']
    exact .notQueried stage sql

/-- A call that is answered by a yes or no and leaves the rows alone is answered alike. -/
lemma InStep.asked (call : Call) (hblind : Blind db content environment)
    (h : InStep content environment secrecy stage s t)
    (haccepted : ∀ session : Session schema, Accepted session call)
    (hs : content (db call s).2 = content s) (ht : content (db call t).2 = content t) :
    failed call (db call s).1 = failed call (db call t).1 ∧
      InStep content environment secrecy stage (db call s).2 (db call t).2 := by
  have hiff : Accepted (content s) call ↔ Accepted (content t) call :=
    ⟨fun _ => haccepted _, fun _ => haccepted _⟩
  obtain ⟨hfailed, henv⟩ := hblind.failures (.same call) h.environment hiff
  refine ⟨hfailed, henv, ?_⟩
  rw [hs, ht]
  exact h.content

/-- Calls in step are answered in step, and leave the two runs in step.

**Proof sketch.** By cases on the call. Those that only ask fail together, and each of the others
has its own lemma. -/
theorem inStep_step (hdb : Conforms faults counting db content)
    (hcounts : CountsInStep secrecy counting) (hblind : Blind db content environment)
    (hkeys : ∀ name, ∀ table ∈ schema name, ∀ column ∈ table.primaryKey,
      secrecy.Public name column)
    {call call' : Call} (hcalls : CallsInStep schema secrecy stage call call')
    (h : InStep content environment secrecy stage s t) :
    ∃ stage', AnswersInStep schema secrecy stage call call' (db call s).1 (db call' t).1 stage' ∧
      InStep content environment secrecy stage' (db call s).2 (db call' t).2 := by
  cases hcalls with
  | isReady =>
    obtain ⟨hfailed, hafter⟩ := h.asked .isReady hblind (fun _ => trivial) (hdb.isReady s).2
      (hdb.isReady t).2
    have hsame : (db .isReady s).1 = (db .isReady t).1 := Bool.not_inj hfailed
    refine ⟨stage, ?_, hafter⟩
    rw [hsame]
    exact .isReady stage _
  | acquire _ databaseName =>
    obtain ⟨hfailed, hafter⟩ := h.asked (.acquire databaseName) hblind (fun _ => trivial)
      (hdb.acquire s databaseName).2 (hdb.acquire t databaseName).2
    have hsame : (db (.acquire databaseName) s).1 = (db (.acquire databaseName) t).1 :=
      Bool.not_inj hfailed
    refine ⟨stage, ?_, hafter⟩
    rw [hsame]
    exact .acquire stage databaseName _
  | isConnected =>
    obtain ⟨hfailed, hafter⟩ := h.asked .isConnected hblind (fun _ => trivial)
      (hdb.isConnected s).2 (hdb.isConnected t).2
    have hsame : (db .isConnected s).1 = (db .isConnected t).1 := Bool.not_inj hfailed
    refine ⟨stage, ?_, hafter⟩
    rw [hsame]
    exact .isConnected stage _
  | lastError =>
    obtain ⟨-, hafter⟩ := h.asked .lastError hblind (fun _ => trivial) (hdb.lastError s)
      (hdb.lastError t)
    exact ⟨stage, .lastError stage _ _, hafter⟩
  | beginTransaction => exact inStep_begin hdb hblind h
  | commitTransaction => exact inStep_commit hdb hblind h
  | rollbackTransaction =>
    obtain ⟨-, henv⟩ := hblind.failures (.same .rollbackTransaction) h.environment Iff.rfl
    refine ⟨.idle, .rolledBack stage _ _, henv, ?_⟩
    rw [hdb.rollbackTransaction s, hdb.rollbackTransaction t]
    exact .idle h.content.committed
  | execute hreadable hreadable' hwrite hwrite' halike =>
    exact inStep_execute hdb hcounts hblind hkeys hreadable hreadable' hwrite hwrite' halike h
  | select hstage hreadable hopen hlisted =>
    exact inStep_select hdb hblind hstage hreadable hopen hlisted h
  | count hstage hreadable hopen => exact inStep_count hdb hblind hstage hreadable hopen h

/-- Two programs in step end with results in step, on a database whose failures do not depend on
the data. -/
theorem inStep_run (hdb : Conforms faults counting db content)
    (hcounts : CountsInStep secrecy counting) (hblind : Blind db content environment)
    (hkeys : ∀ name, ∀ table ∈ schema name, ∀ column ∈ table.primaryKey,
      secrecy.Public name column)
    {α β : Type} {p : Db α} {q : Db β} {post : α → β → Stage → Prop}
    (hcoupled : p.Coupled q (inStep schema secrecy) stage post)
    (h : InStep content environment secrecy stage s t) :
    ∃ stage', post (p.run db s).1 (q.run db t).1 stage' ∧
      InStep content environment secrecy stage' (p.run db s).2 (q.run db t).2 := by
  have hstep : ∀ stage call call' s t, (inStep schema secrecy).calls stage call call' →
      InStep content environment secrecy stage s t →
      ∃ stage', (inStep schema secrecy).answers stage call call' (db call s).1 (db call' t).1
          stage' ∧
        InStep content environment secrecy stage' (db call s).2 (db call' t).2 :=
    fun _ _ _ _ _ hcalls h => inStep_step hdb hcounts hblind hkeys hcalls h
  exact hcoupled.run hstep h

end

/-! ## A database whose failures do not depend on the data -/

section

variable {schema : Schema} {session session' : Session schema}

/-- A statement neither opens nor ends a transaction of `reference`. -/
lemma working_referenceExecute (session : Session schema) (statement : Statement) :
    (referenceExecute session statement).2.working.isSome = session.working.isSome := by
  have hput (store : Store schema) :
      (session.put store).working.isSome = session.working.isSome := by
    unfold Session.put
    cases session.working <;> rfl
  cases hexec : session.view.exec statement with
  | none => cases statement <;> simp only [referenceExecute, hexec]
  | some store => cases statement <;> simp only [referenceExecute, hexec, hput]

/-- A statement fails on `reference` if the rows do not accept it. -/
lemma isNone_referenceExecute (session : Session schema) {statement : Statement}
    (hwrite : statement.IsWrite) :
    (referenceExecute session statement).1.isNone = (session.view.exec statement).isNone := by
  cases hexec : session.view.exec statement with
  | none =>
    cases statement with
    | select | count => exact hwrite.elim
    | insert | update | delete => simp only [referenceExecute, hexec, Option.isNone_none]
  | some store =>
    cases statement with
    | select | count => exact hwrite.elim
    | insert | update | delete => simp only [referenceExecute, hexec, Option.isNone_some]

/-- Statements of one form are executed alike by `reference`.

**Proof sketch.** By the form of the statements. A write fails if and only if the tables refuse it,
and a read is never executed. -/
lemma referenceExecute_alike {statement statement' : Statement}
    (hform : Secrecy.SameForm statement statement')
    (haccepted : session.view.exec statement ≠ none ↔ session'.view.exec statement' ≠ none) :
    (referenceExecute session statement).1.isNone =
      (referenceExecute session' statement').1.isNone := by
  have hwritten (hwrite : statement.IsWrite) (hwrite' : statement'.IsWrite) :
      (referenceExecute session statement).1.isNone =
        (referenceExecute session' statement').1.isNone := by
    rw [isNone_referenceExecute session hwrite, isNone_referenceExecute session' hwrite',
      Bool.eq_iff_iff, Option.isNone_iff_eq_none, Option.isNone_iff_eq_none]
    exact not_iff_not.mp haccepted
  cases hform with
  | insert | update => exact hwritten trivial trivial
  | same =>
    cases statement with
    | insert | update | delete => exact hwritten trivial trivial
    | select | count => rfl

/-- Calls of one form are answered alike by `reference`, and open or end a transaction alike.

**Proof sketch.** By cases on the call. Statements of one form are executed alike, and the other
calls depend on whether a transaction is open. -/
lemma reference_alike {call call' : Call} (hform : SameForm call call')
    (hworking : session.working.isSome = session'.working.isSome)
    (haccepted : Accepted session call ↔ Accepted session' call') :
    failed call (reference schema call session).1 =
        failed call' (reference schema call' session').1 ∧
      (reference schema call session).2.working.isSome =
        (reference schema call' session').2.working.isSome := by
  have hexecuted {sql sql' : String} {statement statement' : Statement}
      (hread : read sql = some statement) (hread' : read sql' = some statement')
      (hform : Secrecy.SameForm statement statement')
      (haccepted : Accepted session (.execute sql) ↔ Accepted session' (.execute sql')) :
      failed (.execute sql) (reference schema (.execute sql) session).1 =
          failed (.execute sql') (reference schema (.execute sql') session').1 ∧
        (reference schema (.execute sql) session).2.working.isSome =
          (reference schema (.execute sql') session').2.working.isSome := by
    simp only [Accepted, hread, hread', Option.mem_def, Option.some.injEq, forall_eq'] at haccepted
    simp only [reference, hread, hread', failed]
    refine ⟨referenceExecute_alike hform haccepted, ?_⟩
    rw [working_referenceExecute, working_referenceExecute, hworking]
  cases hform with
  | execute hread hread' hform => exact hexecuted hread hread' hform haccepted
  | same =>
    cases call with
    | isReady | acquire | isConnected | lastError => exact ⟨rfl, hworking⟩
    | beginTransaction | commitTransaction | rollbackTransaction =>
      obtain ⟨committed, working⟩ := session
      obtain ⟨committed', working'⟩ := session'
      cases working <;> cases working' <;> first | exact ⟨rfl, rfl⟩ | cases hworking
    | execute sql =>
      cases hread : read sql with
      | none => simp only [reference, hread, failed, hworking, and_self]
      | some statement => exact hexecuted hread hread (.same statement) haccepted
    | query sql =>
      refine ⟨?_, hworking⟩
      cases hread : read sql with
      | none => simp only [reference, hread, failed, Option.bind_none]
      | some statement =>
        simp only [reference, hread, failed, Option.bind_some]
        cases statement <;> rfl

/-- Rows of one table are listed in one order by `reference`.

**Proof sketch.** Both are answered with the rows that match, in the order of the table, which is
the same. -/
lemma reference_order {sql name : String} {conditions : List (String × String)}
    {results results' : List ResultRow} (hread : read sql = some (.select name conditions))
    (hrows : session.view.rows name = session'.view.rows name)
    (hresults : (reference schema (.query sql) session).1 = some results)
    (hresults' : (reference schema (.query sql) session').1 = some results') (table : TableSchema) :
    ∃ rows : List Row, rows.Perm (session.view.select name conditions) ∧
      List.Forall₂ (Shows table) rows results ∧ List.Forall₂ (Shows table) rows results' := by
  have hanswer (session : Session schema) : (reference schema (.query sql) session).1 =
      some ((session.view.select name conditions).map showRow) := by
    simp only [reference, hread, Option.bind_some, referenceQuery]
  have hselect : session.view.select name conditions = session'.view.select name conditions :=
    congrArg (List.filter _) hrows
  have hshows (rows : List Row) : List.Forall₂ (Shows table) rows (rows.map showRow) := by
    rw [List.forall₂_map_right_iff, List.forall₂_same]
    exact fun row _ => shows_showRow table row
  obtain rfl := Option.some.inj ((hanswer session).symm.trans hresults)
  obtain rfl := Option.some.inj ((hanswer session').symm.trans hresults')
  refine ⟨session.view.select name conditions, .refl _, hshows _, ?_⟩
  rw [← hselect]
  exact hshows _

/-- The failures of `changing` do not depend on the data.

**Proof sketch.** It fails if and only if `reference` does, and lists rows as `reference` does. -/
theorem changing_blind (schema : Schema) :
    Blind (changing schema) (id : Session schema → Session schema)
      fun s : Session schema => s.working.isSome where
  failures {call call' s t} hform hworking haccepted := by
    obtain ⟨hfailed, hworking'⟩ := reference_alike hform hworking haccepted
    have hcounted {sql : String} {statement : Statement} (hread : read sql = some statement)
        (s : Session schema) : failed (.execute sql) (changing schema (.execute sql) s).1 =
          failed (.execute sql) (reference schema (.execute sql) s).1 := by
      simp only [changing, hread, failed]
      cases (reference schema (.execute sql) s).1 <;> rfl
    cases hform with
    | @execute sql sql' _ _ hread hread' =>
      rw [hcounted hread, hcounted hread']
      exact ⟨hfailed, hworking'⟩
    | same =>
      cases call with
      | isReady | acquire | isConnected | lastError | beginTransaction | commitTransaction
      | rollbackTransaction | query => exact ⟨hfailed, hworking'⟩
      | execute sql =>
        cases hread : read sql with
        | none =>
          refine ⟨?_, hworking'⟩
          simp only [changing, reference, hread, failed]
          rfl
        | some statement =>
          rw [hcounted hread, hcounted hread]
          exact ⟨hfailed, hworking'⟩
  order hread _ hrows hresults hresults' table _ :=
    reference_order hread hrows hresults hresults' table

/-- The failures of `unreliable` depend on the plan, and not on the data.

**Proof sketch.** Both runs have the same plan. A call fails by plan in both, or is answered as by
`reference` in both. -/
theorem unreliable_blind (schema : Schema) :
    Blind (unreliable schema) (Prod.fst : _ → Session schema)
      fun s : Session schema × List Bool => (s.1.working.isSome, s.2) where
  failures {call call' s t} hform henv haccepted := by
    obtain ⟨hworking, hplan⟩ := Prod.mk.inj henv
    have hfails : (call ≠ .rollbackTransaction ∧ s.2.headD false = true) ↔
        (call' ≠ .rollbackTransaction ∧ t.2.headD false = true) := by
      rw [hplan]
      cases hform with
      | same => exact Iff.rfl
      | execute => exact and_congr_left fun _ => ⟨fun _ => nofun, fun _ => nofun⟩
    by_cases hplanned : call ≠ .rollbackTransaction ∧ s.2.headD false = true
    · have hcall : unreliable schema call s = (call.failure, s.1, s.2.tail) := if_pos hplanned
      have hcall' : unreliable schema call' t = (call'.failure, t.1, t.2.tail) :=
        if_pos (hfails.mp hplanned)
      rw [hcall, hcall', hworking, hplan]
      refine ⟨?_, rfl⟩
      cases hform <;> rfl
    · have hcall : unreliable schema call s =
          ((reference schema call s.1).1, (reference schema call s.1).2, s.2.tail) :=
        if_neg hplanned
      have hcall' : unreliable schema call' t =
          ((reference schema call' t.1).1, (reference schema call' t.1).2, t.2.tail) :=
        if_neg fun hplanned' => hplanned (hfails.mpr hplanned')
      obtain ⟨hfailed, hworking'⟩ := reference_alike hform hworking haccepted
      rw [hcall, hcall', hworking', hplan]
      exact ⟨hfailed, rfl⟩
  order {s t sql name conditions results results'} hread _ hrows hresults hresults' table _ := by
    have hanswer {s : Session schema × List Bool} {results : List ResultRow}
        (h : (unreliable schema (.query sql) s).1 = some results) :
        (reference schema (.query sql) s.1).1 = some results := by
      obtain ⟨plan, hcall | hcall⟩ := unreliable_cases (.query sql) s
      · rw [hcall] at h
        cases h
      · rw [hcall] at h
        exact h
    exact reference_order hread hrows (hanswer hresults) (hanswer hresults') table

end

end Database
