import QTradeService.Database.Connection
import QTradeService.Library.Interleaving

set_option relaxedAutoImplicit false
set_option autoImplicit false

/-!
# A database with several connections

Clients with a connection each. Every call is atomic. A transaction gathers its statements and
publishes them when it commits; until then they are seen on their own connection only, on top of
what is committed at the moment. Any call may fail; a transaction that failed to commit publishes
nothing.

## Main definitions

* `Database.Shared` — the committed rows and the open transactions.
* `Database.Shared.Serves` — what a call may answer and do.
* `Database.Shared.serve` — one way of serving the calls, for running programs on.

## Main results

* `Database.Shared.serves_serve`.
-/

namespace Database

open Sql

/-- The committed rows, and the statements of the transaction that is open on a connection. -/
structure Shared (schema : Schema) (κ : Type) where
  committed : Store schema
  journals : κ → Option (List Statement)

namespace Shared

variable {schema : Schema} {κ : Type} [DecidableEq κ]

/-- The database with another transaction on a connection. -/
def setJournal (s : Shared schema κ) (client : κ) (journal : Option (List Statement)) :
    Shared schema κ :=
  { s with journals := Function.update s.journals client journal }

/-- The rows that the next query on the connection sees: the latest committed ones, with the
statements of the connection's own transaction. -/
def view (s : Shared schema κ) (client : κ) : Option (Store schema) :=
  s.committed.replay ((s.journals client).getD [])

/-- The database reports the number of rows of a statement. -/
def Reported (counting : Counting) (store : Option (Store schema)) (statement : Statement)
    (affected : ℤ) : Prop :=
  ∃ rows ∈ store, counting.Reports statement (rows.rows statement.table) affected

/-- What a call of a client may answer and do. -/
inductive Serves (counting : Counting) (client : κ) :
    (call : Call) → Shared schema κ → call.Answer → Shared schema κ → Prop
  | isReady (s : Shared schema κ) (ready : Bool) : Serves counting client .isReady s ready s
  | acquire (s : Shared schema κ) (databaseName : String) (acquired : Bool) :
      Serves counting client (.acquire databaseName) s acquired s
  | isConnected (s : Shared schema κ) (connected : Bool) :
      Serves counting client .isConnected s connected s
  | lastError (s : Shared schema κ) (message : String) :
      Serves counting client .lastError s message s
  | begun {s : Shared schema κ} (hjournal : s.journals client = none) :
      Serves counting client .beginTransaction s true (s.setJournal client (some []))
  | notBegun (s : Shared schema κ) : Serves counting client .beginTransaction s false s
  /-- A statement joins the transaction, if the latest committed rows accept all of it. -/
  | executed {s : Shared schema κ} {sql : String} {statement : Statement}
      {journal : List Statement} {store : Store schema} {affected : ℤ}
      (hread : read sql = some statement) (hwrite : statement.IsWrite)
      (hjournal : s.journals client = some journal)
      (haccepted : s.committed.replay (journal ++ [statement]) = some store)
      (hreported : Reported counting (s.view client) statement affected) :
      Serves counting client (.execute sql) s (some affected)
        (s.setJournal client (some (journal ++ [statement])))
  /-- A statement outside a transaction is published at once. -/
  | published {s : Shared schema κ} {sql : String} {statement : Statement} {store : Store schema}
      {affected : ℤ} (hread : read sql = some statement) (hwrite : statement.IsWrite)
      (hjournal : s.journals client = none) (haccepted : s.committed.exec statement = some store)
      (hreported : Reported counting (s.view client) statement affected) :
      Serves counting client (.execute sql) s (some affected) { s with committed := store }
  /-- A statement that fails leaves the transaction as it was, or ends it. -/
  | notExecuted {s : Shared schema κ} (sql : String) {journal : Option (List Statement)}
      (hjournal : journal = s.journals client ∨ journal = none) :
      Serves counting client (.execute sql) s none (s.setJournal client journal)
  /-- A transaction is published, if the latest committed rows accept it. -/
  | committed {s : Shared schema κ} {journal : List Statement} {store : Store schema}
      (hjournal : s.journals client = some journal)
      (haccepted : s.committed.replay journal = some store) :
      Serves counting client .commitTransaction s true
        ({ s with committed := store }.setJournal client none)
  | notCommitted {s : Shared schema κ} {journal : Option (List Statement)}
      (hjournal : journal = s.journals client ∨ journal = none) :
      Serves counting client .commitTransaction s false (s.setJournal client journal)
  | rolledBack (s : Shared schema κ) (reported : Bool) :
      Serves counting client .rollbackTransaction s reported (s.setJournal client none)
  | selected {s : Shared schema κ} {sql name : String} {conditions : List (String × String)}
      {store : Store schema} {results : List ResultRow}
      (hread : read sql = some (.select name conditions)) (hview : s.view client = some store)
      (hanswers : Answers store name conditions results) :
      Serves counting client (.query sql) s (some results) s
  | counted {s : Shared schema κ} {sql label name : String} {conditions : List (String × String)}
      {store : Store schema} {row : ResultRow} (rest : List ResultRow)
      (hread : read sql = some (.count label name conditions))
      (hview : s.view client = some store)
      (hcount : (row label).bind Cell.asInt64 =
        some ((store.select name conditions).length : ℤ)) :
      Serves counting client (.query sql) s (some (row :: rest)) s
  | notQueried (s : Shared schema κ) (sql : String) :
      Serves counting client (.query sql) s none s

/-- A selection that is answered is answered from what the connection sees. -/
lemma answers_of_serves {client : κ} {counting : Counting} {s s' : Shared schema κ}
    {sql name : String} {conditions : List (String × String)} {results : List ResultRow}
    (h : Serves counting client (.query sql) s (some results) s')
    (hread : read sql = some (.select name conditions)) :
    s' = s ∧ ∃ store, s.view client = some store ∧ Answers store name conditions results := by
  cases h with
  | selected hread' hview hanswers =>
    cases hread.symm.trans hread'
    exact ⟨rfl, _, hview, hanswers⟩
  | counted _ hread' => cases hread.symm.trans hread'

/-! ## A way of serving the calls -/

/-- What `serve` does with a statement that changes rows. -/
def serveWrite (client : κ) (s : Shared schema κ) (statement : Statement) :
    Option ℤ × Shared schema κ :=
  match s.journals client with
  | some journal =>
    match s.committed.replay (journal ++ [statement]), s.view client with
    | some _, some store =>
      (some (statement.affected (store.rows statement.table)),
        s.setJournal client (some (journal ++ [statement])))
    | _, _ => (none, s.setJournal client (some journal))
  | none =>
    match s.committed.exec statement with
    | some store =>
      (some (statement.affected (s.committed.rows statement.table)), { s with committed := store })
    | none => (none, s.setJournal client none)

/-- Serve the calls of a client without failures. -/
def serve (client : κ) : Program.Handler Call.Answer (Shared schema κ)
  | .isReady, s => (true, s)
  | .acquire _, s => (true, s)
  | .isConnected, s => (true, s)
  | .lastError, s => ("", s)
  | .beginTransaction, s =>
    match s.journals client with
    | none => (true, s.setJournal client (some []))
    | some _ => (false, s)
  | .commitTransaction, s =>
    match (s.journals client).bind s.committed.replay with
    | some store => (true, { s with committed := store }.setJournal client none)
    | none => (false, s.setJournal client none)
  | .rollbackTransaction, s => (true, s.setJournal client none)
  | .execute sql, s =>
    match read sql with
    | some (.insert name values) => s.serveWrite client (.insert name values)
    | some (.update name assignments conditions) =>
      s.serveWrite client (.update name assignments conditions)
    | some (.delete name conditions) => s.serveWrite client (.delete name conditions)
    | _ => (none, s.setJournal client none)
  | .query sql, s =>
    match read sql, s.view client with
    | some statement, some store => (referenceQuery store statement, s)
    | _, _ => (none, s)

/-- A statement that changes rows is served.

**Proof sketch.** By whether the client has a transaction open, and by whether the tables accept the
statement there. -/
lemma serves_serveWrite (client : κ) (s : Shared schema κ) {sql : String} {statement : Statement}
    (hread : read sql = some statement) (hwrite : statement.IsWrite) :
    Serves countFound client (.execute sql) s (s.serveWrite client statement).1
      (s.serveWrite client statement).2 := by
  have hfailed (journal : Option (List Statement))
      (hjournal : journal = s.journals client ∨ journal = none)
      (hserve : s.serveWrite client statement = (none, s.setJournal client journal)) :
      Serves countFound client (.execute sql) s (s.serveWrite client statement).1
        (s.serveWrite client statement).2 := by
    rw [hserve]
    exact .notExecuted sql hjournal
  cases hjournal : s.journals client with
  | some journal =>
    cases haccepted : s.committed.replay (journal ++ [statement]) with
    | none => exact hfailed (some journal) (.inl hjournal.symm) (by
        simp only [serveWrite, hjournal, haccepted])
    | some store =>
      cases hview : s.view client with
      | none => exact hfailed (some journal) (.inl hjournal.symm) (by
          simp only [serveWrite, hjournal, haccepted, hview])
      | some rows =>
        have hserve : s.serveWrite client statement =
            (some (statement.affected (rows.rows statement.table) : ℤ),
              s.setJournal client (some (journal ++ [statement]))) := by
          simp only [serveWrite, hjournal, haccepted, hview]
        rw [hserve]
        exact .executed hread hwrite hjournal haccepted ⟨rows, hview, rfl⟩
  | none =>
    cases haccepted : s.committed.exec statement with
    | none => exact hfailed none (.inr rfl) (by
        simp only [serveWrite, hjournal, haccepted])
    | some store =>
      have hserve : s.serveWrite client statement =
          (some (statement.affected (s.committed.rows statement.table) : ℤ),
            { s with committed := store }) := by
        simp only [serveWrite, hjournal, haccepted]
      have hview : s.view client = some s.committed := by
        unfold view
        rw [hjournal]
        exact Store.replay_nil s.committed
      rw [hserve]
      exact .published hread hwrite hjournal haccepted ⟨s.committed, hview, rfl⟩

/-- A query is served. -/
lemma serves_referenceQuery (client : κ) (s : Shared schema κ) {sql : String}
    {statement : Statement} {store : Store schema} (hread : read sql = some statement)
    (hview : s.view client = some store) :
    Serves countFound client (.query sql) s (referenceQuery store statement) s := by
  cases statement with
  | insert | update | delete => exact .notQueried s sql
  | select name conditions =>
    refine .selected hread hview fun table _ => ⟨store.select name conditions, .refl _, ?_⟩
    rw [List.forall₂_map_right_iff, List.forall₂_same]
    exact fun row _ => shows_showRow table row
  | count label name conditions =>
    refine .counted [] hread hview ?_
    simp

/-- A transaction is begun. -/
lemma serves_begin (client : κ) (s : Shared schema κ) :
    Serves countFound client .beginTransaction s (serve client .beginTransaction s).1
      (serve client .beginTransaction s).2 := by
  cases hjournal : s.journals client with
  | none =>
    have hserve : serve client .beginTransaction s =
        (true, s.setJournal client (some [])) := by simp only [serve, hjournal]
    rw [hserve]
    exact .begun hjournal
  | some journal =>
    have hserve : serve client .beginTransaction s = (false, s) := by simp only [serve, hjournal]
    rw [hserve]
    exact .notBegun s

/-- A transaction is committed.

**Proof sketch.** By whether the journal can be replayed on what is committed at the moment. -/
lemma serves_commit (client : κ) (s : Shared schema κ) :
    Serves countFound client .commitTransaction s (serve client .commitTransaction s).1
      (serve client .commitTransaction s).2 := by
  cases haccepted : (s.journals client).bind s.committed.replay with
  | none =>
    have hserve : serve client .commitTransaction s = (false, s.setJournal client none) := by
      simp only [serve, haccepted]
    rw [hserve]
    exact .notCommitted (.inr rfl)
  | some store =>
    have hserve : serve client .commitTransaction s =
        (true, { s with committed := store }.setJournal client none) := by
      simp only [serve, haccepted]
    rw [hserve]
    obtain ⟨journal, hjournal, hreplay⟩ := Option.bind_eq_some_iff.mp haccepted
    exact .committed hjournal hreplay

/-- A statement is served.

**Proof sketch.** By whether the text can be read, and by the kind of the statement. -/
lemma serves_execute (client : κ) (s : Shared schema κ) (sql : String) :
    Serves countFound client (.execute sql) s (serve client (.execute sql) s).1
      (serve client (.execute sql) s).2 := by
  have hfailed (hserve : serve client (.execute sql) s = (none, s.setJournal client none)) :
      Serves countFound client (.execute sql) s (serve client (.execute sql) s).1
        (serve client (.execute sql) s).2 := by
    rw [hserve]
    exact .notExecuted sql (.inr rfl)
  cases hread : read sql with
  | none => exact hfailed (by simp only [serve, hread])
  | some statement =>
    cases statement with
    | insert | update | delete =>
      simp only [serve, hread]
      exact serves_serveWrite client s hread trivial
    | select | count => exact hfailed (by simp only [serve, hread])

/-- A query is served, if it can be read.

**Proof sketch.** By whether the text can be read, and by whether the client has a view. -/
lemma serves_query (client : κ) (s : Shared schema κ) (sql : String) :
    Serves countFound client (.query sql) s (serve client (.query sql) s).1
      (serve client (.query sql) s).2 := by
  cases hread : read sql with
  | none =>
    simp only [serve, hread]
    exact .notQueried s sql
  | some statement =>
    cases hview : s.view client with
    | none =>
      simp only [serve, hread, hview]
      exact .notQueried s sql
    | some store =>
      simp only [serve, hread, hview]
      exact serves_referenceQuery client s hread hview

/-- The calls are served. -/
theorem serves_serve (client : κ) (call : Call) (s : Shared schema κ) :
    Serves countFound client call s (serve client call s).1 (serve client call s).2 := by
  cases call with
  | isReady => exact .isReady s true
  | acquire databaseName => exact .acquire s databaseName true
  | isConnected => exact .isConnected s true
  | lastError => exact .lastError s ""
  | beginTransaction => exact serves_begin client s
  | commitTransaction => exact serves_commit client s
  | rollbackTransaction => exact .rolledBack s true
  | execute sql => exact serves_execute client s sql
  | query sql => exact serves_query client s sql

end Shared

end Database
