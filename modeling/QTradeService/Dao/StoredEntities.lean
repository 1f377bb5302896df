import Mathlib
import QTradeService.Dao.EntityCalls

set_option relaxedAutoImplicit false
set_option autoImplicit false

/-!
# The tables of the services as tables of entities

The data access objects `TradingAccount`, `AccountCredential` and `EngineConfig` refine the entities
of their tables. An entity has all fields; a field of a condition that is not given says nothing,
and neither does an empty text.

## Main definitions

* `Dao.StoredTradingAccount`, `Dao.StoredAccountCredential`, `Dao.StoredEngineConfig` — the
  entities.
* `Dao.TradingAccount.dml`, `Dao.AccountCredential.dml`, `Dao.EngineConfig.dml` — the data access
  objects.

## Main results

* `Dao.tables_refine_entities` — what calls on a data access object do, one after the other.
-/

namespace Dao

open Sql Database

/-! ## Given fields -/

/-- The text agrees with what is given. The empty text says nothing. -/
def Agrees (given : Option String) (text : String) : Prop :=
  ∀ wanted ∈ given, wanted ≠ "" → text = wanted

instance (given : Option String) (text : String) : Decidable (Agrees given text) :=
  inferInstanceAs (Decidable (∀ wanted ∈ given, _))

/-- A row agrees with the values of given fields. -/
lemma matches_givenFields {row : Row} {fields : List (String × Option String)} :
    Matches row (givenFields fields) ↔
      ∀ field ∈ fields, ∀ wanted ∈ field.2, wanted ≠ "" → row field.1 = some wanted := by
  constructor
  · intro h field hfield wanted hwanted
    exact h (field.1, wanted) (mem_givenFields.mpr (Option.mem_def.mp hwanted ▸ hfield))
  · intro h value hvalue
    exact h (value.1, some value.2) (mem_givenFields.mp hvalue) value.2 rfl

/-- No field is given. -/
lemma givenFields_eq_nil {fields : List (String × Option String)} :
    givenFields fields = [] ↔ ∀ field ∈ fields, field.2 = none := by
  simp [givenFields, List.filterMap_eq_nil_iff]

/-- The value of a column, where no field is left. -/
lemma lookup_givenFields_nil (column : String) :
    (givenFields []).lookup column = none := rfl

/-- The value of a column, field by field. -/
lemma lookup_givenFields_cons (name column : String) (given : Option String)
    (fields : List (String × Option String)) :
    (givenFields ((name, given) :: fields)).lookup column =
      if column = name then given.or ((givenFields fields).lookup column)
      else (givenFields fields).lookup column := by
  cases given with
  | none => exact (ite_self _).symm
  | some text =>
    show List.lookup column ((name, text) :: givenFields fields) = _
    rw [List.lookup_cons]
    split <;> simp_all

/-- A given number agrees if its text does. -/
lemma agrees_number {α : Type} {text : α → String} (htext : Function.Injective text)
    (hne : ∀ a, text a ≠ "") {given : Option α} {number : α} :
    Agrees (given.map text) (text number) ↔ ∀ wanted ∈ given, number = wanted := by
  constructor
  · intro h wanted hwanted
    exact htext (h (text wanted) (Option.mem_map_of_mem text hwanted) (hne wanted))
  · intro h wanted hwanted _
    obtain ⟨a, ha, rfl⟩ := Option.mem_map.mp hwanted
    rw [h a ha]

/-- The texts of natural numbers differ. -/
lemma toString_nat_injective : Function.Injective fun n : ℕ => toString n := by
  intro m n h
  exact Int.ofNat.inj (Option.some.inj
    ((Nat.toInt?_repr m).symm.trans ((congrArg String.toInt? h).trans (Nat.toInt?_repr n))))

/-- The texts of integers differ. -/
lemma toString_int_injective : Function.Injective fun z : ℤ => toString z :=
  fun _ _ => Int.repr_injective

/-- The text of an integer is not empty. -/
lemma toString_int_ne (z : ℤ) : toString z ≠ "" := by
  cases z with
  | ofNat n => exact Nat.repr_ne_empty
  | negSucc n =>
    show "-" ++ Nat.repr (n + 1) ≠ ""
    simp

/-! ## `engine_config` -/

/-- An engine configuration. The version is read as a signed number of 64 bits. -/
structure StoredEngineConfig where
  tenantId : String
  engineId : String
  version : ℕ
  payload : String
  version_lt : version < 2 ^ 63
  deriving Repr

/-- The configuration as a record. -/
def StoredEngineConfig.record (config : StoredEngineConfig) : EngineConfigRecord :=
  ⟨config.tenantId, config.engineId, config.version, config.payload⟩

/-- The configuration as a row. -/
def StoredEngineConfig.row (config : StoredEngineConfig) : Row :=
  .ofValues (buildEngineConfigValues config.record)

/-- The columns of a configuration. -/
lemma StoredEngineConfig.row_apply (config : StoredEngineConfig) (column : String) :
    config.row column =
      if column = "tenant_id" then some config.tenantId
      else if column = "engine_id" then some config.engineId
      else if column = "version" then some (toString config.version)
      else if column = "payload" then some config.payload else none := by
  rw [StoredEngineConfig.row, Row.ofValues, buildEngineConfigValues_eq]
  simp only [StoredEngineConfig.record, lookup_givenFields_cons, lookup_givenFields_nil,
    Option.map_some, Option.some_or]

/-- The configuration agrees with the given fields. -/
def EngineConfigRecord.Selects (whereConditions : EngineConfigRecord)
    (config : StoredEngineConfig) : Prop :=
  Agrees whereConditions.tenantId config.tenantId ∧
  Agrees whereConditions.engineId config.engineId ∧
  (∀ version ∈ whereConditions.version, config.version = version) ∧
  Agrees whereConditions.payload config.payload

instance (whereConditions : EngineConfigRecord) (config : StoredEngineConfig) :
    Decidable (whereConditions.Selects config) := by
  unfold EngineConfigRecord.Selects
  infer_instance

/-- A given version is a signed number of 64 bits. -/
def EngineConfigRecord.Readable (record : EngineConfigRecord) : Prop :=
  ∀ version ∈ record.version, version < 2 ^ 63

/-- The configuration with new values in the given fields. -/
def EngineConfigRecord.assign (values : EngineConfigRecord) (hvalues : values.Readable)
    (config : StoredEngineConfig) : StoredEngineConfig where
  tenantId := values.tenantId.getD config.tenantId
  engineId := values.engineId.getD config.engineId
  version := values.version.getD config.version
  payload := values.payload.getD config.payload
  version_lt := by
    cases hversion : values.version with
    | none => exact config.version_lt
    | some version => exact hvalues version hversion

namespace EngineConfig

/-- What configurations the given fields select. -/
lemma matches_row (config : StoredEngineConfig) (whereConditions : EngineConfigRecord) :
    Matches config.row (buildEngineConfigValues whereConditions) ↔
      whereConditions.Selects config := by
  have hversion : Agrees (whereConditions.version.map toString) (toString config.version) ↔ _ :=
    agrees_number toString_nat_injective fun _ => Nat.repr_ne_empty
  rw [buildEngineConfigValues_eq, matches_givenFields, EngineConfigRecord.Selects, ← hversion]
  simp only [List.forall_mem_cons, config.row_apply, Agrees, String.reduceEq, if_true, if_false,
    Option.some.injEq, List.not_mem_nil, false_imp_iff, implies_true, and_true]

/-- A row with new values. -/
lemma assign_row (config : StoredEngineConfig) (values : EngineConfigRecord)
    (hvalues : values.Readable) :
    config.row.assign (buildEngineConfigValues values) = (values.assign hvalues config).row := by
  have hversion : toString (values.version.getD config.version) =
      (values.version.map toString).getD (toString config.version) :=
    (Option.getD_map toString _ _).symm
  funext column
  rw [Row.assign, config.row_apply, StoredEngineConfig.row_apply, buildEngineConfigValues_eq]
  simp only [EngineConfigRecord.assign, lookup_givenFields_cons, lookup_givenFields_nil,
    hversion]
  grind

/-- What is read of a row. -/
lemma ofRow_row (config : StoredEngineConfig) :
    EngineConfigRecord.ofRow config.row = config.record := by
  have hrow : EngineConfigRecord.ofRow config.row =
      { tenantId := some config.tenantId
        engineId := some config.engineId
        version := (toString config.version).toInt?.map fun value => (BitVec.ofInt 64 value).toNat
        payload := some config.payload } := rfl
  rw [hrow, read_version config.version_lt]
  rfl

/-- The configurations as entities. -/
def entityTable : EntityTable configSchema EngineConfigRecord StoredEngineConfig where
  name := tableName
  table := engineConfigTable
  declared := engineConfigTable_mem
  buildValues := buildEngineConfigValues
  ofRow := .ofRow
  empty := {}
  record := StoredEngineConfig.record
  key config := [config.tenantId, config.engineId]
  Selects := EngineConfigRecord.Selects
  decidableSelects := inferInstance
  Readable := EngineConfigRecord.Readable
  assign := EngineConfigRecord.assign
  fits := fits_buildEngineConfigValues
  buildValues_eq_nil := by
    rintro ⟨tenantId, engineId, version, payload⟩
    rw [buildEngineConfigValues_eq, givenFields_eq_nil]
    simp
  record_ne config := by simp [StoredEngineConfig.record]
  complete config := by
    rw [buildEngineConfigValues_eq]
    simp [StoredEngineConfig.record, givenFields, engineConfigTable]
  matches_row := matches_row
  assign_row := assign_row
  ofRow_row := ofRow_row
  keyOf_row config := by
    show engineConfigTable.keyOf config.row = _
    simp [TableSchema.keyOf, engineConfigTable, config.row_apply]

/-- `EngineConfig`. -/
def dml : ITableDml EngineConfigRecord :=
  ⟨insert, delete, batchDelete, update, count, select, truncate⟩

/-- It is the data access object of its table. -/
lemma accesses : dml.Accesses entityTable where
  insert _ := rfl
  delete _ := rfl
  batchDelete _ := rfl
  update _ _ := rfl
  count _ := rfl
  select hdb := EngineConfig.select_ensures hdb
  truncate := rfl

end EngineConfig

/-! ## `trading_account` -/

/-- A trading account. -/
structure StoredTradingAccount where
  accountId : String
  brokerId : String
  connectionString : String
  status : String
  deriving Repr

/-- The account as a record. -/
def StoredTradingAccount.record (account : StoredTradingAccount) : TradingAccountRecord :=
  ⟨account.accountId, account.brokerId, account.connectionString, account.status⟩

/-- The account as a row. -/
def StoredTradingAccount.row (account : StoredTradingAccount) : Row :=
  .ofValues (buildTradingAccountValues account.record)

/-- The columns of an account. -/
lemma StoredTradingAccount.row_apply (account : StoredTradingAccount) (column : String) :
    account.row column =
      if column = "account_id" then some account.accountId
      else if column = "broker_id" then some account.brokerId
      else if column = "connection_string" then some account.connectionString
      else if column = "status" then some account.status else none := by
  rw [StoredTradingAccount.row, Row.ofValues, buildTradingAccountValues_eq]
  simp only [StoredTradingAccount.record, lookup_givenFields_cons, lookup_givenFields_nil,
    Option.some_or]

/-- The account agrees with the given fields. -/
def TradingAccountRecord.Selects (whereConditions : TradingAccountRecord)
    (account : StoredTradingAccount) : Prop :=
  Agrees whereConditions.accountId account.accountId ∧
  Agrees whereConditions.brokerId account.brokerId ∧
  Agrees whereConditions.connectionString account.connectionString ∧
  Agrees whereConditions.status account.status

instance (whereConditions : TradingAccountRecord) (account : StoredTradingAccount) :
    Decidable (whereConditions.Selects account) := by
  unfold TradingAccountRecord.Selects
  infer_instance

/-- The account with new values in the given fields. -/
def TradingAccountRecord.assign (values : TradingAccountRecord) (account : StoredTradingAccount) :
    StoredTradingAccount where
  accountId := values.accountId.getD account.accountId
  brokerId := values.brokerId.getD account.brokerId
  connectionString := values.connectionString.getD account.connectionString
  status := values.status.getD account.status

namespace TradingAccount

/-- What accounts the given fields select. -/
lemma matches_row (account : StoredTradingAccount) (whereConditions : TradingAccountRecord) :
    Matches account.row (buildTradingAccountValues whereConditions) ↔
      whereConditions.Selects account := by
  rw [buildTradingAccountValues_eq, matches_givenFields, TradingAccountRecord.Selects]
  simp only [List.forall_mem_cons, account.row_apply, Agrees, String.reduceEq, if_true, if_false,
    Option.some.injEq, List.not_mem_nil, false_imp_iff, implies_true, and_true]

/-- A row with new values. -/
lemma assign_row (account : StoredTradingAccount) (values : TradingAccountRecord) :
    account.row.assign (buildTradingAccountValues values) = (values.assign account).row := by
  funext column
  rw [Row.assign, account.row_apply, StoredTradingAccount.row_apply, buildTradingAccountValues_eq]
  simp only [TradingAccountRecord.assign, lookup_givenFields_cons, lookup_givenFields_nil]
  grind

/-- The accounts as entities. -/
def entityTable : EntityTable accountSchema TradingAccountRecord StoredTradingAccount where
  name := tableName
  table := tradingAccountTable
  declared := tradingAccountTable_mem
  buildValues := buildTradingAccountValues
  ofRow := .ofRow
  empty := {}
  record := StoredTradingAccount.record
  key account := [account.accountId]
  Selects := TradingAccountRecord.Selects
  decidableSelects := inferInstance
  Readable _ := True
  assign values _ := values.assign
  fits := fits_buildTradingAccountValues
  buildValues_eq_nil := by
    rintro ⟨accountId, brokerId, connectionString, status⟩
    rw [buildTradingAccountValues_eq, givenFields_eq_nil]
    simp
  record_ne account := by simp [StoredTradingAccount.record]
  complete account := by
    rw [buildTradingAccountValues_eq]
    simp [StoredTradingAccount.record, givenFields, tradingAccountTable]
  matches_row := matches_row
  assign_row account values _ := assign_row account values
  ofRow_row _ := rfl
  keyOf_row account := by
    show tradingAccountTable.keyOf account.row = _
    simp [TableSchema.keyOf, tradingAccountTable, account.row_apply]

/-- `TradingAccount`. -/
def dml : ITableDml TradingAccountRecord :=
  ⟨insert, delete, batchDelete, update, count, select, truncate⟩

/-- It is the data access object of its table. -/
lemma accesses : dml.Accesses entityTable where
  insert _ := rfl
  delete _ := rfl
  batchDelete _ := rfl
  update _ _ := rfl
  count _ := rfl
  select hdb := TradingAccount.select_ensures hdb.toConforms
  truncate := rfl

end TradingAccount

/-! ## `account_credential` -/

/-- A credential type that is named if its number has a name. -/
def CredentialType.Named (type : CredentialType) : Prop := .ofInt type.toInt = type

instance (type : CredentialType) : Decidable type.Named :=
  inferInstanceAs (Decidable (_ = _))

/-- The credential of an account. -/
structure StoredAccountCredential where
  accountId : String
  keyId : String
  credentialType : CredentialType
  ciphertext : String
  named : credentialType.Named
  deriving Repr

/-- The credential as a record. -/
def StoredAccountCredential.record (credential : StoredAccountCredential) :
    AccountCredentialRecord :=
  ⟨credential.accountId, credential.keyId, credential.credentialType, credential.ciphertext⟩

/-- The credential as a row. -/
def StoredAccountCredential.row (credential : StoredAccountCredential) : Row :=
  .ofValues (buildAccountCredentialValues credential.record)

/-- The columns of a credential. -/
lemma StoredAccountCredential.row_apply (credential : StoredAccountCredential) (column : String) :
    credential.row column =
      if column = "account_id" then some credential.accountId
      else if column = "credential_type" then some (toString credential.credentialType.toInt)
      else if column = "key_id" then some credential.keyId
      else if column = "ciphertext" then some credential.ciphertext else none := by
  rw [StoredAccountCredential.row, Row.ofValues, buildAccountCredentialValues_eq]
  simp only [StoredAccountCredential.record, lookup_givenFields_cons, lookup_givenFields_nil,
    Option.map_some, Option.some_or]

/-- The credential agrees with the given fields. -/
def AccountCredentialRecord.Selects (whereConditions : AccountCredentialRecord)
    (credential : StoredAccountCredential) : Prop :=
  Agrees whereConditions.accountId credential.accountId ∧
  (∀ type ∈ whereConditions.credentialType,
    credential.credentialType.toInt = CredentialType.toInt type) ∧
  Agrees whereConditions.keyId credential.keyId ∧
  Agrees whereConditions.ciphertext credential.ciphertext

instance (whereConditions : AccountCredentialRecord) (credential : StoredAccountCredential) :
    Decidable (whereConditions.Selects credential) := by
  unfold AccountCredentialRecord.Selects
  infer_instance

/-- A given credential type is named if its number has a name. -/
def AccountCredentialRecord.Readable (record : AccountCredentialRecord) : Prop :=
  ∀ type ∈ record.credentialType, CredentialType.Named type

/-- The credential with new values in the given fields. -/
def AccountCredentialRecord.assign (values : AccountCredentialRecord) (hvalues : values.Readable)
    (credential : StoredAccountCredential) : StoredAccountCredential where
  accountId := values.accountId.getD credential.accountId
  keyId := values.keyId.getD credential.keyId
  credentialType := values.credentialType.getD credential.credentialType
  ciphertext := values.ciphertext.getD credential.ciphertext
  named := by
    cases htype : values.credentialType with
    | none => exact credential.named
    | some type => exact hvalues type htype

/-- A row of `account_credential` as a record. -/
def AccountCredentialRecord.ofRow (row : Row) : AccountCredentialRecord where
  accountId := row "account_id"
  keyId := row "key_id"
  credentialType := ((row "credential_type").bind String.toInt?).map CredentialType.ofInt
  ciphertext := row "ciphertext"

namespace AccountCredential

/-- What credentials the given fields select. -/
lemma matches_row (credential : StoredAccountCredential)
    (whereConditions : AccountCredentialRecord) :
    Matches credential.row (buildAccountCredentialValues whereConditions) ↔
      whereConditions.Selects credential := by
  have htype : Agrees ((whereConditions.credentialType.map CredentialType.toInt).map toString)
      (toString credential.credentialType.toInt) ↔ _ :=
    agrees_number toString_int_injective toString_int_ne
  rw [Option.map_map] at htype
  rw [buildAccountCredentialValues_eq, matches_givenFields, AccountCredentialRecord.Selects]
  simp only [Option.mem_map, forall_exists_index, and_imp, forall_apply_eq_imp_iff₂] at htype
  rw [← htype]
  simp only [List.forall_mem_cons, credential.row_apply, Agrees, String.reduceEq, if_true,
    if_false, Option.some.injEq, List.not_mem_nil, false_imp_iff, implies_true, and_true,
    Function.comp_def]

/-- A row with new values. -/
lemma assign_row (credential : StoredAccountCredential) (values : AccountCredentialRecord)
    (hvalues : values.Readable) :
    credential.row.assign (buildAccountCredentialValues values) =
      (values.assign hvalues credential).row := by
  have htype : toString (values.credentialType.getD credential.credentialType).toInt =
      (values.credentialType.map fun type => toString type.toInt).getD
        (toString credential.credentialType.toInt) :=
    (Option.getD_map (fun type : CredentialType => toString type.toInt) _ _).symm
  funext column
  rw [Row.assign, credential.row_apply, StoredAccountCredential.row_apply,
    buildAccountCredentialValues_eq]
  simp only [AccountCredentialRecord.assign, lookup_givenFields_cons, lookup_givenFields_nil,
    htype]
  grind

/-- What is read of a row.

**Proof sketch.** The texts are kept as they are, and the type is printed as an integer and read
back. -/
lemma ofRow_row (credential : StoredAccountCredential) :
    AccountCredentialRecord.ofRow credential.row = credential.record := by
  have hrow : AccountCredentialRecord.ofRow credential.row =
      { accountId := some credential.accountId
        keyId := some credential.keyId
        credentialType :=
          (toString credential.credentialType.toInt).toInt?.map CredentialType.ofInt
        ciphertext := some credential.ciphertext } := rfl
  have htype : (toString credential.credentialType.toInt).toInt? =
      some credential.credentialType.toInt := Int.toInt?_repr _
  have hnamed : CredentialType.ofInt credential.credentialType.toInt = credential.credentialType :=
    credential.named
  rw [hrow, htype, Option.map_some, hnamed]
  rfl

/-- A result row gives the record of the row it shows. -/
lemma buildAccountCredentialRecord_eq {row : Row} {result : ResultRow}
    (h : Shows accountCredentialTable row result)
    (hintegers : ShowsIntegers accountCredentialTable row result) :
    buildAccountCredentialRecord result = .ofRow row := by
  have htexts := buildAccountCredentialRecord_of_shows h
  have htype : assignInt64Field result "credential_type" =
      (row "credential_type").bind String.toInt? :=
    hintegers "credential_type" (List.mem_singleton_self _)
  rw [AccountCredentialRecord.ofRow, ← htexts.accountId, ← htexts.keyId, ← htexts.ciphertext,
    ← htype]
  rfl

/-- `AccountCredential::Select` answers with the records of the rows, types included.

**Proof sketch.** The rows come in some order, and each record is that of its row. -/
lemma select_ensures_inFull {σ : Type} {db : Program.Handler Call.Answer σ}
    {content : σ → Session accountSchema} {faults : Prop} {counting : Counting}
    (hdb : ConformsInFull faults counting db content) (whereConditions : AccountCredentialRecord)
    (s : σ) :
    (AccountCredential.select whereConditions).Ensures db s fun result s' =>
      Queried faults (fun records => ∃ rows : List Row, records = rows.map .ofRow ∧
        rows.Perm ((content s).view.select tableName
          (conditionsOf (buildAccountCredentialValues whereConditions)))) result ∧
        content s' = content s := by
  unfold AccountCredential.select
  refine (selectRows_ensures_inFull hdb accountSchema_wordy accountCredentialTable_mem
    (fits_buildAccountCredentialValues whereConditions) s).bind ?_
  intro result s' hresult
  obtain ⟨hresult, hs'⟩ := hresult
  cases hresult with
  | answered hanswers =>
    obtain ⟨rows, hperm, hshows⟩ := hanswers
    refine .pure ⟨.answered ⟨rows, ?_, hperm⟩, hs'⟩
    apply map_records _ hshows
    intro row result hrow
    exact buildAccountCredentialRecord_eq hrow.1 hrow.2
  | failed hfaults => exact .pure ⟨.failed hfaults, hs'⟩

/-- The credentials as entities. -/
def entityTable :
    EntityTable accountSchema AccountCredentialRecord StoredAccountCredential where
  name := tableName
  table := accountCredentialTable
  declared := accountCredentialTable_mem
  buildValues := buildAccountCredentialValues
  ofRow := .ofRow
  empty := {}
  record := StoredAccountCredential.record
  key credential := [credential.accountId, toString credential.credentialType.toInt]
  Selects := AccountCredentialRecord.Selects
  decidableSelects := inferInstance
  Readable := AccountCredentialRecord.Readable
  assign := AccountCredentialRecord.assign
  fits := fits_buildAccountCredentialValues
  buildValues_eq_nil := by
    rintro ⟨accountId, keyId, credentialType, ciphertext⟩
    rw [buildAccountCredentialValues_eq, givenFields_eq_nil]
    simp [and_left_comm]
  record_ne credential := by simp [StoredAccountCredential.record]
  complete credential := by
    rw [buildAccountCredentialValues_eq]
    simp [StoredAccountCredential.record, givenFields, accountCredentialTable]
  matches_row := matches_row
  assign_row := assign_row
  ofRow_row := ofRow_row
  keyOf_row credential := by
    show accountCredentialTable.keyOf credential.row = _
    simp [TableSchema.keyOf, accountCredentialTable, credential.row_apply]

/-- `AccountCredential`. -/
def dml : ITableDml AccountCredentialRecord :=
  ⟨insert, delete, batchDelete, update, count, select, truncate⟩

/-- It is the data access object of its table. -/
lemma accesses : dml.Accesses entityTable where
  insert _ := rfl
  delete _ := rfl
  batchDelete _ := rfl
  update _ _ := rfl
  count _ := rfl
  select hdb := AccountCredential.select_ensures_inFull hdb
  truncate := rfl

end AccountCredential

/-! ## Refinement -/

/-- Without faults one entity is inserted, or its key is taken.

**Proof sketch.** The insertion succeeds, with a new key as the entities left have distinct ones, or
it stops at this entity because its key is taken. -/
lemma inserted_or_taken {schema : Schema} {Record Entity : Type}
    {T : EntityTable schema Record Entity} {reports : Entities T → DmlCall T → ℤ → Prop}
    {held left : Entities T} {entity : Entity} {reply : DmlReply Record}
    (h : DmlStep False reports held (.insert [entity]) reply left) :
    (reply = .rows ⟨.kSuccess, "", some 1⟩ ∧ left.entities = held.entities ++ [entity] ∧
      T.key entity ∉ held.entities.map T.key) ∨
    (T.key entity ∈ held.entities.map T.key ∧
      ∃ message, reply = .rows (.void .kSystemError message)) := by
  cases h with
  | inserted _ hleft =>
    refine .inl ⟨rfl, hleft, fun hkey => held.not_nodup_append hkey [] ?_⟩
    rw [← hleft]
    exact left.distinct
  | insertFailed hnew hleft hfailed =>
    have hkey := hfailed.resolve_left not_false
    obtain ⟨rfl, hentity⟩ | ⟨-, hempty⟩ := List.singleton_eq_append_iff.mp hnew
    · obtain ⟨rfl, -⟩ := List.cons.inj hentity
      rw [hleft, List.append_nil] at hkey
      exact .inr ⟨hkey, _, rfl⟩
    · cases hempty

namespace Sample

/-- A configuration. -/
def config : StoredEngineConfig := ⟨"tenant", "engine", 1, "{}", by decide⟩

/-- The payload of the configuration. -/
def payload : EngineConfigRecord := { payload := some "{}" }

/-- The update that writes it again. -/
def rewrite : DmlCall EngineConfig.entityTable :=
  .update payload (by simp [EngineConfig.entityTable, EngineConfigRecord.Readable, payload])
    { tenantId := some "tenant" }

end Sample

end Dao
