import Mathlib
import QTradeService.Dao.AccountTables

set_option relaxedAutoImplicit false
set_option autoImplicit false

/-!
# The table of the config service

The data access object of the table `engine_config`. The service only reads configurations.

## Main definitions

* `Dao.EngineConfigRecord` — the records.
* `Dao.EngineConfig` — the operations on the table.
* `Dao.configSchema` — the declared table.

## Main results

* `Dao.EngineConfig.select_ensures` — what `Select` answers on a database that conforms.
-/

namespace Dao

open Sql Database

/-- A row of `engine_config`; a field may have no value. -/
structure EngineConfigRecord where
  tenantId : Option String := none
  engineId : Option String := none
  version : Option ℕ := none
  payload : Option String := none
  deriving DecidableEq, Repr

/-- `BuildEngineConfigValues`. -/
def buildEngineConfigValues (record : EngineConfigRecord) : KeyValues :=
  let values := addTextValue [] "tenant_id" record.tenantId
  let values := addTextValue values "engine_id" record.engineId
  let values := addUInt64Value values "version" record.version
  addTextValue values "payload" record.payload

/-- `BuildEngineConfigRecord`. -/
def buildEngineConfigRecord (row : ResultRow) : EngineConfigRecord where
  tenantId := assignTextField row "tenant_id"
  engineId := assignTextField row "engine_id"
  version := assignUInt64Field row "version"
  payload := assignTextField row "payload"

namespace EngineConfig

/-- `EngineConfig::TableName`. -/
def tableName : String := "engine_config"

/-- `EngineConfig::Insert`. -/
def insert (records : List EngineConfigRecord) : Db (Result ℤ) :=
  insertRecords tableName buildEngineConfigValues records

/-- `EngineConfig::Delete`. -/
def delete (whereConditions : EngineConfigRecord) : Db (Result ℤ) :=
  deleteRecords tableName buildEngineConfigValues whereConditions

/-- `EngineConfig::BatchDelete`. -/
def batchDelete (_ids : List ℤ) : Db (Result ℤ) :=
  return .void .kInternalError "composite primary key"

/-- `EngineConfig::Update`. -/
def update (record whereConditions : EngineConfigRecord) : Db (Result ℤ) :=
  updateRecords tableName buildEngineConfigValues record whereConditions

/-- `EngineConfig::Count`. -/
def count (whereConditions : EngineConfigRecord) : Db (Result ℤ) :=
  countRecords tableName buildEngineConfigValues whereConditions

/-- `EngineConfig::Select`. A failure keeps its code and loses its message. -/
def select (whereConditions : EngineConfigRecord) : Db (Result (List EngineConfigRecord)) := do
  let result ← selectRows tableName (buildEngineConfigValues whereConditions)
  match result.errorCode, result.data with
  | .kSuccess, some rows => return ⟨.kSuccess, "", some (rows.map buildEngineConfigRecord)⟩
  | errorCode, _ => return .void errorCode ""

/-- `EngineConfig::Truncate`. -/
def truncate : Db (Result ℤ) := truncateRows tableName

end EngineConfig

/-! ## The declared table -/

/-- The table `engine_config` (`kCreateTableSql`). -/
def engineConfigTable : TableSchema where
  columns := ["tenant_id", "engine_id", "version", "payload"]
  integers := ["version"]
  primaryKey := ["tenant_id", "engine_id"]

/-- The table that the config service reads. -/
def configSchema : Schema := fun name =>
  if name = EngineConfig.tableName then some engineConfigTable else none

/-- `engine_config` is declared. -/
lemma engineConfigTable_mem : engineConfigTable ∈ configSchema EngineConfig.tableName :=
  if_pos rfl

/-- All names are words. -/
lemma configSchema_wordy : configSchema.Wordy := by
  intro name table htable
  unfold configSchema at htable
  split at htable
  · next hname =>
    obtain rfl := Option.some.inj htable
    rw [hname]
    decide
  · cases htable

/-- The values of an `engine_config` record. -/
lemma buildEngineConfigValues_eq (record : EngineConfigRecord) :
    buildEngineConfigValues record = givenFields
      [("tenant_id", record.tenantId), ("engine_id", record.engineId),
        ("version", record.version.map toString), ("payload", record.payload)] := by
  obtain ⟨tenantId, engineId, version, payload⟩ := record
  cases tenantId <;> cases engineId <;> cases version <;> cases payload <;> rfl

/-- The values of a record fit `engine_config`.

**Proof sketch.** The columns that are given are among those of the table, each at most once, and
the only integer column holds the text of the version. -/
lemma fits_buildEngineConfigValues (record : EngineConfigRecord) :
    engineConfigTable.Fits (buildEngineConfigValues record) := by
  rw [buildEngineConfigValues_eq]
  have hcolumns := map_fst_givenFields
    [("tenant_id", record.tenantId), ("engine_id", record.engineId),
      ("version", record.version.map toString), ("payload", record.payload)]
  refine { known := fun value hvalue => ?_, distinct := ?_, integer := fun value hvalue h => ?_ }
  · exact hcolumns.subset (List.mem_map_of_mem hvalue)
  · exact List.Nodup.sublist hcolumns (by simp)
  · have hcolumn : value.1 = "version" := List.mem_singleton.mp h
    have hmem := mem_givenFields.mp hvalue
    rw [hcolumn] at hmem
    obtain ⟨version, -, hversion⟩ : ∃ version, record.version = some version ∧
        toString version = value.2 := by
      simpa [eq_comm] using hmem
    exact ⟨version, hversion.symm⟩

/-! ## What `Select` answers -/

/-- A row of `engine_config` as a record. -/
def EngineConfigRecord.ofRow (row : Row) : EngineConfigRecord where
  tenantId := row "tenant_id"
  engineId := row "engine_id"
  version := ((row "version").bind String.toInt?).map fun value => (BitVec.ofInt 64 value).toNat
  payload := row "payload"

/-- A version that is a signed number of 64 bits is read back from its text. -/
lemma read_version {version : ℕ} (hversion : version < 2 ^ 63) :
    ((toString version).toInt?.map fun value => (BitVec.ofInt 64 value).toNat) =
      some version := by
  have hread : (toString version).toInt? = some (version : ℤ) := Nat.toInt?_repr version
  have hmod : (BitVec.ofInt 64 (version : ℤ)).toNat = version := by
    simp only [BitVec.toNat_ofInt]
    omega
  rw [hread, Option.map_some, hmod]

/-- A result row of `engine_config` gives the record of the row it shows. -/
lemma buildEngineConfigRecord_of_shows {row : Row} {result : ResultRow}
    (h : Shows engineConfigTable row result)
    (hintegers : ShowsIntegers engineConfigTable row result) :
    buildEngineConfigRecord result = .ofRow row := by
  have hversion : assignUInt64Field result "version" =
      ((row "version").bind String.toInt?).map fun value => (BitVec.ofInt 64 value).toNat := by
    unfold assignUInt64Field
    rw [hintegers "version" (List.mem_singleton_self _)]
  have htext (column : String) (hcolumn : column ∈ engineConfigTable.columns)
      (hnot : column ∉ engineConfigTable.integers) :
      assignTextField result column = row column := h column hcolumn hnot
  unfold buildEngineConfigRecord EngineConfigRecord.ofRow
  rw [htext "tenant_id" (by decide) (by decide), htext "engine_id" (by decide) (by decide),
    htext "payload" (by decide) (by decide), hversion]

/-- `EngineConfig::Select` answers with the records of the rows, in some order.

**Proof sketch.** The rows come in some order, and each record is that of its row. -/
lemma EngineConfig.select_ensures {σ : Type} {db : Program.Handler Call.Answer σ}
    {content : σ → Session configSchema} {faults : Prop} {counting : Counting}
    (hdb : ConformsInFull faults counting db content) (whereConditions : EngineConfigRecord)
    (s : σ) :
    (EngineConfig.select whereConditions).Ensures db s fun result s' =>
      Queried faults (fun records => ∃ rows : List Row, records = rows.map .ofRow ∧
        rows.Perm ((content s).view.select EngineConfig.tableName
          (conditionsOf (buildEngineConfigValues whereConditions)))) result ∧
        content s' = content s := by
  unfold EngineConfig.select
  refine (selectRows_ensures_inFull hdb configSchema_wordy engineConfigTable_mem
    (fits_buildEngineConfigValues whereConditions) s).bind ?_
  intro result s' hresult
  obtain ⟨hresult, hs'⟩ := hresult
  cases hresult with
  | answered hanswers =>
    obtain ⟨rows, hperm, hshows⟩ := hanswers
    refine .pure ⟨.answered ⟨rows, ?_, hperm⟩, hs'⟩
    apply map_records _ hshows
    intro row result hrow
    exact buildEngineConfigRecord_of_shows hrow.1 hrow.2
  | failed hfaults => exact .pure ⟨.failed hfaults, hs'⟩

end Dao
