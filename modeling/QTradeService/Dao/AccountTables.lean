import QTradeService.Dao.Effects

set_option relaxedAutoImplicit false
set_option autoImplicit false

/-!
# The tables of the account service

The data access objects of the tables `trading_account` and `account_credential`. Both turn
records into columns with values, leaving out the fields without a value, and result rows into
records.

## Main definitions

* `Dao.TradingAccountRecord`, `Dao.AccountCredentialRecord` — the records.
* `Dao.TradingAccount`, `Dao.AccountCredential` — the operations on the two tables.
* `Dao.accountSchema` — the declared tables.

## Main results

* `Dao.insertRecords_ensures`, `Dao.updateRecords_ensures`, `Dao.countRecords_ensures` — what the
  operations do on a database that conforms.
* `Dao.TradingAccount.select_ensures`, `Dao.AccountCredential.select_ensures`.
-/

namespace Dao

open Sql Database

/-! ## Operations that the tables share -/

/-- `Insert` from some record on, after `affected` rows. -/
def insertFrom {Record : Type} (table : String) (buildValues : Record → KeyValues) :
    ℤ → List Record → Db (Result ℤ)
  | affected, [] => return ⟨.kSuccess, "", some affected⟩
  | affected, record :: records => do
    let values := buildValues record
    if values.isEmpty then
      return .void .kSystemError ""
    let result ← insertRow table values
    if result.errorCode ≠ .kSuccess then
      return result
    insertFrom table buildValues (affected + result.data.getD 0) records

/-- `Insert`: one statement for each record, up to the first failure. -/
def insertRecords {Record : Type} (table : String) (buildValues : Record → KeyValues)
    (records : List Record) : Db (Result ℤ) :=
  if records.isEmpty then return .void .kSystemError ""
  else insertFrom table buildValues 0 records

/-- `Delete`. -/
def deleteRecords {Record : Type} (table : String) (buildValues : Record → KeyValues)
    (whereConditions : Record) : Db (Result ℤ) :=
  let whereValues := buildValues whereConditions
  if whereValues.isEmpty then return .void .kSystemError ""
  else deleteRows table whereValues

/-- `Update`. -/
def updateRecords {Record : Type} (table : String) (buildValues : Record → KeyValues)
    (record whereConditions : Record) : Db (Result ℤ) :=
  let values := buildValues record
  let whereValues := buildValues whereConditions
  if values.isEmpty || whereValues.isEmpty then return .void .kSystemError ""
  else updateRows table values whereValues

/-- `Count`. -/
def countRecords {Record : Type} (table : String) (buildValues : Record → KeyValues)
    (whereConditions : Record) : Db (Result ℤ) :=
  countRows table (buildValues whereConditions)

/-! ## `trading_account` -/

/-- A row of `trading_account`; a field may have no value. -/
structure TradingAccountRecord where
  accountId : Option String := none
  brokerId : Option String := none
  connectionString : Option String := none
  status : Option String := none
  deriving DecidableEq, Repr

/-- `BuildTradingAccountValues`. -/
def buildTradingAccountValues (record : TradingAccountRecord) : KeyValues :=
  let values := addTextValue [] "account_id" record.accountId
  let values := addTextValue values "broker_id" record.brokerId
  let values := addTextValue values "connection_string" record.connectionString
  addTextValue values "status" record.status

/-- `BuildTradingAccountRecord`. -/
def buildTradingAccountRecord (row : ResultRow) : TradingAccountRecord where
  accountId := assignTextField row "account_id"
  brokerId := assignTextField row "broker_id"
  connectionString := assignTextField row "connection_string"
  status := assignTextField row "status"

namespace TradingAccount

/-- `TradingAccount::TableName`. -/
def tableName : String := "trading_account"

/-- `TradingAccount::Insert`. -/
def insert (records : List TradingAccountRecord) : Db (Result ℤ) :=
  insertRecords tableName buildTradingAccountValues records

/-- `TradingAccount::Delete`. -/
def delete (whereConditions : TradingAccountRecord) : Db (Result ℤ) :=
  deleteRecords tableName buildTradingAccountValues whereConditions

/-- `TradingAccount::BatchDelete`. -/
def batchDelete (_ids : List ℤ) : Db (Result ℤ) :=
  -- The message is the one of the tables with several key columns; this one has a single one.
  return .void .kInternalError "composite primary key"

/-- `TradingAccount::Update`. -/
def update (record whereConditions : TradingAccountRecord) : Db (Result ℤ) :=
  updateRecords tableName buildTradingAccountValues record whereConditions

/-- `TradingAccount::Count`. -/
def count (whereConditions : TradingAccountRecord) : Db (Result ℤ) :=
  countRecords tableName buildTradingAccountValues whereConditions

/-- `TradingAccount::Select`. A failure keeps its code and loses its message. -/
def select (whereConditions : TradingAccountRecord) : Db (Result (List TradingAccountRecord)) := do
  let result ← selectRows tableName (buildTradingAccountValues whereConditions)
  match result.errorCode, result.data with
  | .kSuccess, some rows => return ⟨.kSuccess, "", some (rows.map buildTradingAccountRecord)⟩
  | errorCode, _ => return .void errorCode ""

/-- `TradingAccount::Truncate`. -/
def truncate : Db (Result ℤ) := truncateRows tableName

end TradingAccount

/-! ## `account_credential` -/

/-- What kind of credential a row holds; the column may hold any number. -/
inductive CredentialType
  | kDefault
  | kPassword
  | kAuthCode
  | unnamed (value : ℤ)
  deriving DecidableEq, Repr

/-- The number of a credential type. -/
def CredentialType.toInt : CredentialType → ℤ
  | .kDefault => 0
  | .kPassword => 1
  | .kAuthCode => 2
  | .unnamed value => value

/-- The credential type with a number. -/
def CredentialType.ofInt (value : ℤ) : CredentialType :=
  if value = 0 then .kDefault
  else if value = 1 then .kPassword
  else if value = 2 then .kAuthCode
  else .unnamed value

/-- A row of `account_credential`; a field may have no value. -/
structure AccountCredentialRecord where
  accountId : Option String := none
  keyId : Option String := none
  credentialType : Option CredentialType := none
  ciphertext : Option String := none
  deriving DecidableEq, Repr

/-- `BuildAccountCredentialValues`. -/
def buildAccountCredentialValues (record : AccountCredentialRecord) : KeyValues :=
  let values := addTextValue [] "account_id" record.accountId
  let values :=
    addInt64Value values "credential_type" (record.credentialType.map CredentialType.toInt)
  let values := addTextValue values "key_id" record.keyId
  addTextValue values "ciphertext" record.ciphertext

/-- `BuildAccountCredentialRecord`. -/
def buildAccountCredentialRecord (row : ResultRow) : AccountCredentialRecord where
  accountId := assignTextField row "account_id"
  credentialType := (assignInt64Field row "credential_type").map CredentialType.ofInt
  keyId := assignTextField row "key_id"
  ciphertext := assignTextField row "ciphertext"

namespace AccountCredential

/-- `AccountCredential::TableName`. -/
def tableName : String := "account_credential"

/-- `AccountCredential::Insert`. -/
def insert (records : List AccountCredentialRecord) : Db (Result ℤ) :=
  insertRecords tableName buildAccountCredentialValues records

/-- `AccountCredential::Delete`. -/
def delete (whereConditions : AccountCredentialRecord) : Db (Result ℤ) :=
  deleteRecords tableName buildAccountCredentialValues whereConditions

/-- `AccountCredential::BatchDelete`. -/
def batchDelete (_ids : List ℤ) : Db (Result ℤ) :=
  return .void .kInternalError "composite primary key"

/-- `AccountCredential::Update`. -/
def update (record whereConditions : AccountCredentialRecord) : Db (Result ℤ) :=
  updateRecords tableName buildAccountCredentialValues record whereConditions

/-- `AccountCredential::Count`. -/
def count (whereConditions : AccountCredentialRecord) : Db (Result ℤ) :=
  countRecords tableName buildAccountCredentialValues whereConditions

/-- `AccountCredential::Select`. -/
def select (whereConditions : AccountCredentialRecord) :
    Db (Result (List AccountCredentialRecord)) := do
  let result ← selectRows tableName (buildAccountCredentialValues whereConditions)
  match result.errorCode, result.data with
  | .kSuccess, some rows => return ⟨.kSuccess, "", some (rows.map buildAccountCredentialRecord)⟩
  | errorCode, _ => return .void errorCode result.errorMessage

/-- `AccountCredential::Truncate`. -/
def truncate : Db (Result ℤ) := truncateRows tableName

end AccountCredential

/-! ## The declared tables -/

/-- The table `trading_account` (`kCreateTableSql`). -/
def tradingAccountTable : TableSchema where
  columns := ["account_id", "broker_id", "connection_string", "status"]
  integers := []
  primaryKey := ["account_id"]

/-- The table `account_credential` (`kCreateTableSql`). -/
def accountCredentialTable : TableSchema where
  columns := ["account_id", "key_id", "credential_type", "ciphertext"]
  integers := ["credential_type"]
  primaryKey := ["account_id", "credential_type"]

/-- The tables of the account service. -/
def accountSchema : Schema := fun name =>
  if name = TradingAccount.tableName then some tradingAccountTable
  else if name = AccountCredential.tableName then some accountCredentialTable
  else none

/-- `trading_account` is declared. -/
lemma tradingAccountTable_mem : tradingAccountTable ∈ accountSchema TradingAccount.tableName :=
  if_pos rfl

/-- `account_credential` is declared. -/
lemma accountCredentialTable_mem :
    accountCredentialTable ∈ accountSchema AccountCredential.tableName :=
  (if_neg (by decide)).trans (if_pos rfl)

/-- All names are words. -/
lemma accountSchema_wordy : accountSchema.Wordy := by
  intro name table htable
  unfold accountSchema at htable
  split at htable
  · next hname =>
    obtain rfl := Option.some.inj htable
    rw [hname]
    decide
  · split at htable
    · next hname =>
      obtain rfl := Option.some.inj htable
      rw [hname]
      decide
    · cases htable

/-! ## Records as values

The values of a record are the fields that have one, in the order of the columns. -/

/-- The fields that have a value. -/
def givenFields (fields : List (String × Option String)) : KeyValues :=
  fields.filterMap fun field => field.2.map fun value => (field.1, value)

/-- A given field has its value. -/
lemma mem_givenFields {fields : List (String × Option String)} {value : String × String} :
    value ∈ givenFields fields ↔ (value.1, some value.2) ∈ fields := by
  obtain ⟨column, text⟩ := value
  simp [givenFields, List.mem_filterMap]

/-- The columns of the given fields, in their order. -/
lemma map_fst_givenFields (fields : List (String × Option String)) :
    ((givenFields fields).map Prod.fst).Sublist (fields.map Prod.fst) := by
  induction fields with
  | nil => exact List.Sublist.slnil
  | cons field fields ih =>
    obtain ⟨column, value⟩ := field
    cases value with
    | none => exact ih.cons _
    | some value => exact ih.cons_cons _

/-- The values of a `trading_account` record. -/
lemma buildTradingAccountValues_eq (record : TradingAccountRecord) :
    buildTradingAccountValues record = givenFields
      [("account_id", record.accountId), ("broker_id", record.brokerId),
        ("connection_string", record.connectionString), ("status", record.status)] := by
  obtain ⟨accountId, brokerId, connectionString, status⟩ := record
  cases accountId <;> cases brokerId <;> cases connectionString <;> cases status <;> rfl

/-- The values of an `account_credential` record. -/
lemma buildAccountCredentialValues_eq (record : AccountCredentialRecord) :
    buildAccountCredentialValues record = givenFields
      [("account_id", record.accountId),
        ("credential_type", record.credentialType.map fun type => toString type.toInt),
        ("key_id", record.keyId), ("ciphertext", record.ciphertext)] := by
  obtain ⟨accountId, keyId, credentialType, ciphertext⟩ := record
  cases accountId <;> cases keyId <;> cases credentialType <;> cases ciphertext <;> rfl

/-- The values of a record fit `trading_account`. -/
lemma fits_buildTradingAccountValues (record : TradingAccountRecord) :
    tradingAccountTable.Fits (buildTradingAccountValues record) := by
  rw [buildTradingAccountValues_eq]
  have hcolumns := map_fst_givenFields
    [("account_id", record.accountId), ("broker_id", record.brokerId),
      ("connection_string", record.connectionString), ("status", record.status)]
  refine { known := fun value hvalue => ?_, distinct := ?_, integer := fun _ _ h => ?_ }
  · exact hcolumns.subset (List.mem_map_of_mem hvalue)
  · exact List.Nodup.sublist hcolumns (by simp)
  · cases h

/-- The values of a record fit `account_credential`.

**Proof sketch.** The columns that are given are among those of the table, each at most once, and
the only integer column holds the text of the type. -/
lemma fits_buildAccountCredentialValues (record : AccountCredentialRecord) :
    accountCredentialTable.Fits (buildAccountCredentialValues record) := by
  rw [buildAccountCredentialValues_eq]
  have hcolumns := map_fst_givenFields
    [("account_id", record.accountId),
      ("credential_type", record.credentialType.map fun type => toString type.toInt),
      ("key_id", record.keyId), ("ciphertext", record.ciphertext)]
  refine { known := fun value hvalue => ?_, distinct := ?_, integer := fun value hvalue h => ?_ }
  · have hmem := hcolumns.subset (List.mem_map_of_mem hvalue)
    simp only [List.map_cons, List.map_nil, List.mem_cons, List.not_mem_nil, or_false] at hmem
    rcases hmem with h | h | h | h <;> simp [h, accountCredentialTable]
  · exact List.Nodup.sublist hcolumns (by simp)
  · have hcolumn : value.1 = "credential_type" := List.mem_singleton.mp h
    have hmem := mem_givenFields.mp hvalue
    rw [hcolumn] at hmem
    obtain ⟨type, -, htype⟩ : ∃ type, record.credentialType = some type ∧
        toString type.toInt = value.2 := by
      simpa [eq_comm] using hmem
    exact ⟨type.toInt, htype.symm⟩

/-! ## What the operations do -/

section

variable {schema : Schema} {σ : Type} {db : Program.Handler Call.Answer σ}
  {content : σ → Session schema} {faults : Prop} {counting : Counting}
  (hdb : Conforms faults counting db content) (hwords : schema.Wordy)
  {name : String} {table : TableSchema} (htable : table ∈ schema name) {Record : Type}
  {buildValues : Record → KeyValues}

include hdb hwords htable

/-- `Insert` of one record.

**Proof sketch.** The loop runs once, and reports what the insert of the row reports. -/
lemma insertRecords_ensures {record : Record} (hfits : table.Fits (buildValues record))
    (hcomplete : ∀ column ∈ table.columns, column ∈ (buildValues record).map Prod.fst)
    (hvalues : buildValues record ≠ []) (s : σ) :
    (insertRecords name buildValues [record]).Ensures db s fun result s' =>
      Written faults (· = 1) (content s) (.insert name (buildValues record)) result
        (content s') := by
  show (insertFrom name buildValues 0 [record]).Ensures db s _
  unfold insertFrom
  rw [if_neg (by simpa using hvalues)]
  refine (insertRow_ensures hdb hwords htable hfits hcomplete hvalues s).bind
    ?_
  intro result s' hwritten
  generalize hsession : content s' = session at hwritten
  cases hwritten with
  | executed hexec hreported =>
    subst hreported
    rw [if_neg (by simp)]
    refine .pure ?_
    rw [hsession]
    exact .executed hexec rfl
  | failed hexec hcommitted =>
    rw [if_pos (by simp [Result.void])]
    refine .pure ?_
    rw [hsession]
    exact .failed hexec hcommitted

/-- `Update`. -/
lemma updateRecords_ensures {record whereConditions : Record}
    (hfits : table.Fits (buildValues record)) (hwhere : table.Fits (buildValues whereConditions))
    (hvalues : buildValues record ≠ []) (hconditions : buildValues whereConditions ≠ []) (s : σ) :
    (updateRecords name buildValues record whereConditions).Ensures db s fun result s' =>
      Written faults
        (counting.Reports
          (.update name (buildValues record) (conditionsOf (buildValues whereConditions)))
          ((content s).view.rows name))
        (content s)
        (.update name (buildValues record) (conditionsOf (buildValues whereConditions)))
        result (content s') := by
  unfold updateRecords
  rw [if_neg (by simpa using ⟨hvalues, hconditions⟩)]
  exact updateRows_ensures hdb hwords htable hfits hwhere hvalues hconditions s

end

/-- A row of `trading_account` as a record. -/
def TradingAccountRecord.ofRow (row : Row) : TradingAccountRecord where
  accountId := row "account_id"
  brokerId := row "broker_id"
  connectionString := row "connection_string"
  status := row "status"

/-- A result row of `trading_account` gives the record of the row it shows. -/
lemma buildTradingAccountRecord_of_shows {row : Row} {result : ResultRow}
    (h : Shows tradingAccountTable row result) :
    buildTradingAccountRecord result = .ofRow row := by
  have htext (column : String) (hcolumn : column ∈ tradingAccountTable.columns) :
      assignTextField result column = row column := h column hcolumn List.not_mem_nil
  unfold buildTradingAccountRecord TradingAccountRecord.ofRow
  rw [htext "account_id" (by decide), htext "broker_id" (by decide),
    htext "connection_string" (by decide), htext "status" (by decide)]

/-- Result rows give the records of the rows they show if each of them does. -/
lemma map_records {Record : Type} {shows : Row → ResultRow → Prop} {build : ResultRow → Record}
    {ofRow : Row → Record} (hbuild : ∀ row result, shows row result → build result = ofRow row)
    {rows : List Row} {results : List ResultRow} (h : List.Forall₂ shows rows results) :
    results.map build = rows.map ofRow := by
  induction h with
  | nil => rfl
  | cons hrow _ ih => rw [List.map_cons, List.map_cons, hbuild _ _ hrow, ih]

/-- The result rows of `trading_account` give the records of the rows they show. -/
lemma map_buildTradingAccountRecord {rows : List Row} {results : List ResultRow}
    (h : List.Forall₂ (Shows tradingAccountTable) rows results) :
    results.map buildTradingAccountRecord = rows.map .ofRow := by
  apply map_records _ h
  intro row result hrow
  exact buildTradingAccountRecord_of_shows hrow

/-- A record of `account_credential` has the texts of the row. -/
structure AccountCredentialRecord.Reads (row : Row) (record : AccountCredentialRecord) : Prop where
  accountId : record.accountId = row "account_id"
  keyId : record.keyId = row "key_id"
  ciphertext : record.ciphertext = row "ciphertext"

/-- A result row of `account_credential` gives a record with the texts of the row it shows. -/
lemma buildAccountCredentialRecord_of_shows {row : Row} {result : ResultRow}
    (h : Shows accountCredentialTable row result) :
    (buildAccountCredentialRecord result).Reads row where
  accountId := h "account_id" (by decide) (by decide)
  keyId := h "key_id" (by decide) (by decide)
  ciphertext := h "ciphertext" (by decide) (by decide)

section

variable {σ : Type} {db : Program.Handler Call.Answer σ} {content : σ → Session accountSchema}
  {faults : Prop} {counting : Counting} (hdb : Conforms faults counting db content)

include hdb

/-- `TradingAccount::Select` answers with the records of the rows, in some order. -/
lemma TradingAccount.select_ensures (whereConditions : TradingAccountRecord) (s : σ) :
    (TradingAccount.select whereConditions).Ensures db s fun result s' =>
      Queried faults (fun records => ∃ rows : List Row, records = rows.map .ofRow ∧
        rows.Perm ((content s).view.select TradingAccount.tableName
          (conditionsOf (buildTradingAccountValues whereConditions)))) result ∧
        content s' = content s := by
  unfold TradingAccount.select
  refine (selectRows_ensures hdb accountSchema_wordy tradingAccountTable_mem
    (fits_buildTradingAccountValues whereConditions) s).bind ?_
  intro result s' hresult
  obtain ⟨hresult, hs'⟩ := hresult
  cases hresult with
  | answered hanswers =>
    obtain ⟨rows, hperm, hshows⟩ := hanswers tradingAccountTable tradingAccountTable_mem
    exact .pure ⟨.answered ⟨rows, map_buildTradingAccountRecord hshows, hperm⟩, hs'⟩
  | failed hfaults => exact .pure ⟨.failed hfaults, hs'⟩

/-- `AccountCredential::Select` answers with the records of the rows, in some order.

**Proof sketch.** The rows come in some order, and each record reads its row. -/
lemma AccountCredential.select_ensures (whereConditions : AccountCredentialRecord) (s : σ) :
    (AccountCredential.select whereConditions).Ensures db s fun result s' =>
      Queried faults (fun records => ∃ rows : List Row,
        rows.Perm ((content s).view.select AccountCredential.tableName
          (conditionsOf (buildAccountCredentialValues whereConditions))) ∧
        List.Forall₂ (fun row record => record.Reads row) rows records) result ∧
        content s' = content s := by
  unfold AccountCredential.select
  refine (selectRows_ensures hdb accountSchema_wordy accountCredentialTable_mem
    (fits_buildAccountCredentialValues whereConditions) s).bind ?_
  intro result s' hresult
  obtain ⟨hresult, hs'⟩ := hresult
  cases hresult with
  | answered hanswers =>
    obtain ⟨rows, hperm, hshows⟩ := hanswers accountCredentialTable accountCredentialTable_mem
    refine .pure ⟨.answered ⟨rows, hperm, List.forall₂_map_right_iff.mpr ?_⟩, hs'⟩
    exact hshows.imp fun row result => buildAccountCredentialRecord_of_shows
  | failed hfaults => exact .pure ⟨.failed hfaults, hs'⟩

end

end Dao
