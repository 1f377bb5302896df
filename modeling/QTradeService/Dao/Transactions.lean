import QTradeService.Dao.AccountTables
import QTradeService.Database.Transactions

set_option relaxedAutoImplicit false
set_option autoImplicit false

/-!
# The data access objects in a transaction

The functions of `Dao.DmlUtils` keep the discipline of a connection: the ones that read only ask,
and the ones that write add their statement to the transaction, or report that it failed.

## Main definitions

* `Dao.Joined` — what a statement in a transaction answers and leaves.

## Main results

* `Dao.countRows_only`, `Dao.selectRows_only`.
* `Dao.insertRow_follows`, `Dao.updateRows_follows`.
-/

namespace Dao

open Sql Database Program

variable {schema : Schema} {Publishes : List Statement → Prop}

/-- The result of a statement in a transaction: the statement has joined it, or it is reported to
have failed and the transaction can be given up. -/
inductive Joined (journal : List Statement) (statement : Statement) : Result ℤ → Phase → Prop
  | joined (affected : ℤ) :
      Joined journal statement ⟨.kSuccess, "", some affected⟩ (.writing (journal ++ [statement]))
  | failed (message : String) {phase : Phase}
      (hphase : phase = .broken ∨ ∃ journal, phase = .writing journal) :
      Joined journal statement (.void .kSystemError message) phase

/-- Reporting a failure only asks. -/
lemma dbFailureResult_only {α : Type} :
    (dbFailureResult : Db (Result α)).Only (Asks schema) :=
  Only.bind (Only.request trivial) fun _ => trivial

/-- Reporting a failed statement leaves the transaction broken. -/
lemma dbFailureResult_follows {journal : List Statement} {statement : Statement} :
    (dbFailureResult : Db (Result ℤ)).Follows (transactions schema Publishes) .broken
      (Joined journal statement) := by
  refine (lastError_follows .broken nofun).bind fun message phase hphase => ?_
  subst hphase
  exact .pure (.failed message (.inl rfl))

section

variable (hwords : schema.Wordy) {name : String} {table : TableSchema}
  (htable : table ∈ schema name) {values whereValues : KeyValues}

include hwords htable

/-- The text of a count can be read. -/
lemma readable_count (hwhere : table.Fits whereValues) :
    Readable schema ("SELECT COUNT(*) AS cnt FROM " ++ name ++ buildWhereSql whereValues)
      (.count "cnt" name (conditionsOf whereValues)) :=
  ⟨read_count (hwords name table htable).1 (columns_of_fits hwords htable hwhere),
    table, htable, hwhere.sublist List.filter_sublist⟩

/-- The text of a selection can be read. -/
lemma readable_select (hwhere : table.Fits whereValues) :
    Readable schema ("SELECT * FROM " ++ name ++ buildWhereSql whereValues)
      (.select name (conditionsOf whereValues)) :=
  ⟨read_select (hwords name table htable).1 (columns_of_fits hwords htable hwhere),
    table, htable, hwhere.sublist List.filter_sublist⟩

/-- The text of an insert can be read. -/
lemma readable_insert (hfits : table.Fits values)
    (hcomplete : ∀ column ∈ table.columns, column ∈ values.map Prod.fst) (hvalues : values ≠ []) :
    Readable schema ("INSERT INTO " ++ name ++ " " ++ buildInsertColumns values)
      (.insert name values) :=
  ⟨read_insert (hwords name table htable).1 (columns_of_fits hwords htable hfits) hvalues,
    table, htable, hfits, hcomplete⟩

/-- The text of an update can be read. -/
lemma readable_update (hfits : table.Fits values) (hwhere : table.Fits whereValues)
    (hvalues : values ≠ []) :
    Readable schema
      ("UPDATE " ++ name ++ " SET " ++ buildAssignments values ++ buildWhereSql whereValues)
      (.update name values (conditionsOf whereValues)) :=
  ⟨read_update (hwords name table htable).1 (columns_of_fits hwords htable hfits) hvalues
      (columns_of_fits hwords htable hwhere),
    table, htable, hfits, hwhere.sublist List.filter_sublist⟩

/-- `CountRows` only asks.

**Proof sketch.** By the answers: a count asks, and its failure asks for the error. -/
lemma countRows_only (hwhere : table.Fits whereValues) :
    (countRows name whereValues).Only (Asks schema) := by
  refine Only.bind (Only.request trivial) fun connected => ?_
  cases connected with
  | false => trivial
  | true =>
    refine Only.bind (Only.request ⟨_, readable_count hwords htable hwhere⟩) fun answer => ?_
    match answer with
    | none => exact dbFailureResult_only
    | some [] => trivial
    | some (row :: _) =>
      dsimp only
      split <;> trivial

/-- `SelectRows` only asks. -/
lemma selectRows_only (hwhere : table.Fits whereValues) :
    (selectRows name whereValues).Only (Asks schema) := by
  refine Only.bind (Only.request trivial) fun connected => ?_
  cases connected with
  | false => trivial
  | true =>
    refine Only.bind (Only.request ⟨_, readable_select hwords htable hwhere⟩) fun answer => ?_
    cases answer with
    | none => exact dbFailureResult_only
    | some rows => trivial

omit hwords htable in
/-- A statement in a transaction. -/
lemma execute_follows {sql : String} {statement : Statement} {journal : List Statement}
    (hreadable : Readable schema sql statement) (hwrite : statement.IsWrite) :
    (execute sql).Follows (transactions schema Publishes) (.writing journal) fun answer phase =>
      phase = if answer.isSome then .writing (journal ++ [statement]) else .broken := by
  refine .request ⟨nofun, ⟨journal, rfl⟩, statement, hreadable, hwrite⟩ fun answer => ?_
  cases answer with
  | none => rfl
  | some affected => simp [transactions, hreadable.1]

/-- `InsertRow` in a transaction. -/
lemma insertRow_follows (hfits : table.Fits values)
    (hcomplete : ∀ column ∈ table.columns, column ∈ values.map Prod.fst) (hvalues : values ≠ [])
    {journal : List Statement} :
    (insertRow name values).Follows (transactions schema Publishes) (.writing journal)
      (Joined journal (.insert name values)) := by
  refine (isConnected_follows (.writing journal) nofun).bind fun connected phase hphase => ?_
  subst hphase
  split
  · exact .pure (.failed _ (.inr ⟨journal, rfl⟩))
  · refine (execute_follows (readable_insert hwords htable hfits hcomplete hvalues)
      trivial).bind fun answer phase hphase => ?_
    subst hphase
    cases answer with
    | none => exact dbFailureResult_follows
    | some affected => exact .pure (.joined 1)

/-- `UpdateRows` in a transaction. -/
lemma updateRows_follows (hfits : table.Fits values) (hwhere : table.Fits whereValues)
    (hvalues : values ≠ []) {journal : List Statement} :
    (updateRows name values whereValues).Follows (transactions schema Publishes)
      (.writing journal) (Joined journal (.update name values (conditionsOf whereValues))) := by
  refine (isConnected_follows (.writing journal) nofun).bind fun connected phase hphase => ?_
  subst hphase
  split
  · exact .pure (.failed _ (.inr ⟨journal, rfl⟩))
  · refine (execute_follows (readable_update hwords htable hfits hwhere hvalues)
      trivial).bind fun answer phase hphase => ?_
    subst hphase
    cases answer with
    | none => exact dbFailureResult_follows
    | some affected => exact .pure (.joined affected)

/-- `Insert` of one record in a transaction.

**Proof sketch.** The loop runs once, and ends as the insert of the row does. -/
lemma insertRecords_follows {Record : Type} {buildValues : Record → KeyValues} {record : Record}
    (hfits : table.Fits (buildValues record))
    (hcomplete : ∀ column ∈ table.columns, column ∈ (buildValues record).map Prod.fst)
    (hvalues : buildValues record ≠ []) {journal : List Statement} :
    (insertRecords name buildValues [record]).Follows (transactions schema Publishes)
      (.writing journal) (Joined journal (.insert name (buildValues record))) := by
  show (insertFrom name buildValues 0 [record]).Follows _ _ _
  unfold insertFrom
  rw [if_neg (by simpa using hvalues)]
  refine (insertRow_follows hwords htable hfits hcomplete hvalues).bind fun result phase h => ?_
  cases h with
  | joined affected =>
    rw [if_neg (by simp)]
    exact .pure (.joined _)
  | failed message hphase =>
    rw [if_pos (by simp)]
    exact .pure (.failed message hphase)

/-- `Update` in a transaction. -/
lemma updateRecords_follows {Record : Type} {buildValues : Record → KeyValues}
    {record whereConditions : Record} (hfits : table.Fits (buildValues record))
    (hwhere : table.Fits (buildValues whereConditions)) (hvalues : buildValues record ≠ [])
    (hconditions : buildValues whereConditions ≠ []) {journal : List Statement} :
    (updateRecords name buildValues record whereConditions).Follows
      (transactions schema Publishes) (.writing journal)
      (Joined journal
        (.update name (buildValues record) (conditionsOf (buildValues whereConditions)))) := by
  unfold updateRecords
  rw [if_neg (by simpa using ⟨hvalues, hconditions⟩)]
  exact updateRows_follows hwords htable hfits hwhere hvalues

end

/-! ## The account tables -/

/-- `TradingAccount::Count` only asks. -/
lemma TradingAccount.count_only (whereConditions : TradingAccountRecord) :
    (TradingAccount.count whereConditions).Only (Asks accountSchema) :=
  countRows_only accountSchema_wordy tradingAccountTable_mem
    (fits_buildTradingAccountValues whereConditions)

/-- `TradingAccount::Select` only asks. -/
lemma TradingAccount.select_only (whereConditions : TradingAccountRecord) :
    (TradingAccount.select whereConditions).Only (Asks accountSchema) := by
  refine Only.bind (selectRows_only accountSchema_wordy tradingAccountTable_mem
    (fits_buildTradingAccountValues whereConditions)) fun result => ?_
  split <;> trivial

/-- `AccountCredential::Select` only asks. -/
lemma AccountCredential.select_only (whereConditions : AccountCredentialRecord) :
    (AccountCredential.select whereConditions).Only (Asks accountSchema) := by
  refine Only.bind (selectRows_only accountSchema_wordy accountCredentialTable_mem
    (fits_buildAccountCredentialValues whereConditions)) fun result => ?_
  split <;> trivial

end Dao
