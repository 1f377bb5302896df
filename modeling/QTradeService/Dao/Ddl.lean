import QTradeService.Dao.AccountTables
import QTradeService.Dao.EngineConfigTable
import QTradeService.Library.Sql.Definitions

set_option relaxedAutoImplicit false
set_option autoImplicit false

/-!
# The tables that the services create

`ddl.hpp` and `ddl_utils.cpp`: the statements that create a table and its indexes, and the
function that executes them on a connection; and the tables of the three services, with the
statements as their data access objects hold them.

## Main definitions

* `Dao.ITableDdl`, `Dao.ensureTableSchema`.
* `Dao.accountTables`, `Dao.configTables`, `Dao.accountRiskTables` — the tables of the services.

## Main results

* `Dao.sound_accountTables`, `Dao.sound_engineConfigDdl` — the statements create the tables that
  the data access objects work on.
* `Dao.sound_policyTables`, `Dao.sound_accountRiskTables` — so do those of the other tables.
-/

namespace Dao

open Database Sql

/-- The statements that describe a table (`ITableDdl`). -/
structure ITableDdl where
  databaseName : String
  tableName : String
  createTableSqls : List String
  indexSqls : List String

/-- The statements of a table, in the order in which they are executed. -/
def ITableDdl.sqls (schema : ITableDdl) : List String :=
  schema.createTableSqls ++ schema.indexSqls

/-- Execute statements until one fails: the loops of `EnsureTableSchema`. -/
def executeAll : List String → Db Bool
  | [] => return true
  | sql :: sqls => do
    if (← execute sql).isNone then return false
    executeAll sqls

/-- `EnsureTableSchema`, on a connection that is not null. -/
def ensureTableSchema (schema : ITableDdl) : Db ErrorCode := do
  if !(← isConnected) then return .kSystemError
  if !(← executeAll schema.createTableSqls) then return .kSystemError
  if !(← executeAll schema.indexSqls) then return .kSystemError
  return .kSuccess

/-! ## The tables -/

/-- The table `trading_account`. -/
def tradingAccountDdl : ITableDdl where
  databaseName := "account"
  tableName := "trading_account"
  createTableSqls := ["
CREATE TABLE IF NOT EXISTS trading_account (
  account_id TEXT NOT NULL COMMENT '交易账户 ID（全局唯一）',
  broker_id TEXT NOT NULL COMMENT '券商 ID',
  connection_string TEXT NOT NULL COMMENT '交易通道连接串',
  status TEXT NOT NULL COMMENT '账户状态（如 active / disabled）',
  PRIMARY KEY (account_id)
);
"]
  indexSqls := []

/-- The table `account_credential`. -/
def accountCredentialDdl : ITableDdl where
  databaseName := "account"
  tableName := "account_credential"
  createTableSqls := ["
CREATE TABLE IF NOT EXISTS account_credential (
  account_id TEXT NOT NULL COMMENT '交易账户 ID（全局唯一，与 trading_account 对齐）',
  key_id TEXT NOT NULL COMMENT '加密密钥标识（解密选钥/轮换；与凭证内容版本无关）',
  credential_type INTEGER NOT NULL COMMENT '凭证类型（0=default, 1=password, 2=auth_code）',
  ciphertext TEXT NOT NULL COMMENT '凭证密文（可逆加密；勿存明文）',
  PRIMARY KEY (account_id, credential_type)
);
"]
  indexSqls := []

/-- The table `engine_config`. -/
def engineConfigDdl : ITableDdl where
  databaseName := "config"
  tableName := "engine_config"
  createTableSqls := ["
CREATE TABLE IF NOT EXISTS engine_config (
  tenant_id TEXT NOT NULL COMMENT '租户 ID',
  engine_id TEXT NOT NULL COMMENT '引擎 ID',
  version INTEGER NOT NULL COMMENT '配置版本号',
  payload TEXT NOT NULL COMMENT 'JSON 配置载荷',
  PRIMARY KEY (tenant_id, engine_id)
);
"]
  indexSqls := []

/-- The table `tenant_risk_policy`. -/
def tenantRiskPolicyDdl : ITableDdl where
  databaseName := "config"
  tableName := "tenant_risk_policy"
  createTableSqls := ["
CREATE TABLE IF NOT EXISTS tenant_risk_policy (
  tenant_id TEXT NOT NULL COMMENT '租户 ID',
  version BIGINT NOT NULL COMMENT '配额配置版本',
  valid_until_unix_ms BIGINT NOT NULL COMMENT '失效时间（Unix 毫秒）；0 表示不限期',
  max_notional DOUBLE NOT NULL COMMENT '租户总名义敞口上限',
  max_daily_loss DOUBLE NOT NULL COMMENT '租户总日内损失上限（绝对值）',
  max_order_rate_per_sec BIGINT NOT NULL COMMENT '租户总订单速率上限（笔/秒）',
  max_strategy_count BIGINT NOT NULL COMMENT '策略实例资源配额上限',
  max_engine_count BIGINT NOT NULL COMMENT '引擎实例资源配额上限',
  enabled BOOLEAN NOT NULL COMMENT '是否启用租户级硬限制',
  PRIMARY KEY (tenant_id)
);
"]
  indexSqls := [
    "CREATE INDEX IF NOT EXISTS idx_tenant_risk_policy_enabled ON tenant_risk_policy (enabled);"]

/-- The table `instance_risk_policy`. -/
def instanceRiskPolicyDdl : ITableDdl where
  databaseName := "config"
  tableName := "instance_risk_policy"
  createTableSqls := ["
CREATE TABLE IF NOT EXISTS instance_risk_policy (
  tenant_id TEXT NOT NULL COMMENT '租户 ID',
  account_id TEXT NOT NULL COMMENT '交易账户 ID',
  engine_id TEXT NOT NULL COMMENT '引擎实例 ID',
  version BIGINT NOT NULL COMMENT '策略配置版本',
  valid_until_unix_ms BIGINT NOT NULL COMMENT '预算失效时间（Unix 毫秒）',
  max_notional DOUBLE NOT NULL COMMENT '实例名义敞口预算',
  max_margin DOUBLE NOT NULL COMMENT '实例保证金预算',
  max_position_notional DOUBLE NOT NULL COMMENT '实例最大持仓名义预算',
  max_open_orders BIGINT NOT NULL COMMENT '实例未完成订单数预算',
  max_order_rate_per_sec BIGINT NOT NULL COMMENT '实例订单速率预算（笔/秒）',
  safety_buffer DOUBLE NOT NULL COMMENT '实例侧安全缓冲',
  enabled BOOLEAN NOT NULL COMMENT '是否启用实例预算校验',
  PRIMARY KEY (tenant_id, account_id, engine_id)
);
"]
  indexSqls := [
    "CREATE INDEX IF NOT EXISTS idx_instance_risk_policy_engine ON instance_risk_policy (tenant_id, engine_id);"]

/-- The table `strategy_risk_policy`. -/
def strategyRiskPolicyDdl : ITableDdl where
  databaseName := "config"
  tableName := "strategy_risk_policy"
  createTableSqls := ["
CREATE TABLE IF NOT EXISTS strategy_risk_policy (
  tenant_id TEXT NOT NULL COMMENT '租户 ID',
  account_id TEXT NOT NULL COMMENT '允许交易的账户 ID',
  engine_id TEXT NOT NULL COMMENT '引擎实例 ID',
  strategy_id TEXT NOT NULL COMMENT '策略 ID',
  version BIGINT NOT NULL COMMENT '限额配置版本',
  max_capital DOUBLE NOT NULL COMMENT '策略资金预算',
  max_position_volume DOUBLE NOT NULL COMMENT '策略最大仓位（名义或数量口径由配置约定）',
  max_daily_loss DOUBLE NOT NULL COMMENT '策略单日损失上限',
  max_order_rate_per_sec BIGINT NOT NULL COMMENT '策略订单频率上限（笔/秒）',
  max_cancel_rate_per_sec BIGINT NOT NULL COMMENT '策略撤单频率上限（笔/秒）',
  allowed_instruments_json TEXT NOT NULL COMMENT '允许品种 JSON 数组；空表示不额外限制',
  enabled BOOLEAN NOT NULL COMMENT '是否启用策略级限额',
  PRIMARY KEY (tenant_id, account_id, engine_id, strategy_id)
);
"]
  indexSqls := [
    "CREATE INDEX IF NOT EXISTS idx_strategy_risk_policy_strategy ON strategy_risk_policy (tenant_id, strategy_id);"]

/-- The table `instrument_risk_policy`. -/
def instrumentRiskPolicyDdl : ITableDdl where
  databaseName := "config"
  tableName := "instrument_risk_policy"
  createTableSqls := ["
CREATE TABLE IF NOT EXISTS instrument_risk_policy (
  tenant_id TEXT NOT NULL COMMENT '租户 ID',
  account_id TEXT NOT NULL COMMENT '交易账户 ID',
  engine_id TEXT NOT NULL COMMENT '引擎实例 ID；空串表示账户级缺省',
  instrument_id TEXT NOT NULL COMMENT '合约/品种 ID',
  version BIGINT NOT NULL COMMENT '限额配置版本',
  max_net_position DOUBLE NOT NULL COMMENT '单品种净仓上限',
  max_gross_position DOUBLE NOT NULL COMMENT '单品种总仓上限',
  max_order_qty DOUBLE NOT NULL COMMENT '单笔最大数量',
  max_order_notional DOUBLE NOT NULL COMMENT '单笔最大名义金额',
  max_price_deviation_bps BIGINT NOT NULL COMMENT '价格偏离上限（基点）',
  limit_up_down_check_enabled BOOLEAN NOT NULL COMMENT '是否启用涨跌停校验',
  liquidity_limit_notional DOUBLE NOT NULL COMMENT '流动性限制名义金额；0 表示不限制',
  enabled BOOLEAN NOT NULL COMMENT '是否启用品种级限额',
  PRIMARY KEY (tenant_id, account_id, engine_id, instrument_id)
);
"]
  indexSqls := [
    "CREATE INDEX IF NOT EXISTS idx_instrument_risk_policy_instr ON instrument_risk_policy (tenant_id, instrument_id);"]

/-- The table `order_risk_policy`. -/
def orderRiskPolicyDdl : ITableDdl where
  databaseName := "config"
  tableName := "order_risk_policy"
  createTableSqls := ["
CREATE TABLE IF NOT EXISTS order_risk_policy (
  tenant_id TEXT NOT NULL COMMENT '租户 ID',
  account_id TEXT NOT NULL COMMENT '交易账户 ID',
  engine_id TEXT NOT NULL COMMENT '引擎实例 ID',
  version BIGINT NOT NULL COMMENT '策略配置版本',
  min_qty DOUBLE NOT NULL COMMENT '单笔最小数量',
  max_qty DOUBLE NOT NULL COMMENT '单笔最大数量',
  min_price DOUBLE NOT NULL COMMENT '允许最低价；0 表示不限制',
  max_price DOUBLE NOT NULL COMMENT '允许最高价；0 表示不限制',
  allowed_sides_json TEXT NOT NULL COMMENT '允许方向 JSON 数组',
  allowed_order_types_json TEXT NOT NULL COMMENT '允许订单类型 JSON 数组',
  reject_duplicate_client_order_id BOOLEAN NOT NULL COMMENT '是否拒绝重复 client_order_id',
  max_order_ttl_ms BIGINT NOT NULL COMMENT '订单最大有效期（毫秒）；0 表示不限制',
  max_child_order_notional DOUBLE NOT NULL COMMENT '拆单子单累计名义上限；0 表示不限制',
  enabled BOOLEAN NOT NULL COMMENT '是否启用订单级策略',
  PRIMARY KEY (tenant_id, account_id, engine_id)
);
"]
  indexSqls := []

/-- The table `quote_health_policy`. -/
def quoteHealthPolicyDdl : ITableDdl where
  databaseName := "config"
  tableName := "quote_health_policy"
  createTableSqls := ["
CREATE TABLE IF NOT EXISTS quote_health_policy (
  tenant_id TEXT NOT NULL COMMENT '租户 ID',
  engine_id TEXT NOT NULL COMMENT '引擎实例 ID',
  instrument_id TEXT NOT NULL COMMENT '品种 ID；空串表示引擎缺省策略',
  version BIGINT NOT NULL COMMENT '策略配置版本',
  max_quote_latency_ms BIGINT NOT NULL COMMENT '行情延迟上限（毫秒）',
  quote_max_stale_ms BIGINT NOT NULL COMMENT '最后一笔有效 Tick 允许的最大静默时间（毫秒）',
  allow_sequence_gap BOOLEAN NOT NULL COMMENT '是否允许序号缺口继续交易',
  reject_on_failover BOOLEAN NOT NULL COMMENT '行情源切换期间是否拒绝新开仓',
  reject_new_open_on_unhealthy BOOLEAN NOT NULL COMMENT '不健康时是否拒绝受影响品种新开仓',
  block_open_on_limit_up_down BOOLEAN NOT NULL COMMENT '涨跌停状态是否禁止新开仓',
  enabled BOOLEAN NOT NULL COMMENT '是否启用行情健康校验',
  PRIMARY KEY (tenant_id, engine_id, instrument_id)
);
"]
  indexSqls := [
    "CREATE INDEX IF NOT EXISTS idx_quote_health_policy_engine ON quote_health_policy (tenant_id, engine_id);"]

/-- The table `account_risk_policy`. -/
def accountRiskPolicyDdl : ITableDdl where
  databaseName := "account_risk"
  tableName := "account_risk_policy"
  createTableSqls := ["
CREATE TABLE IF NOT EXISTS account_risk_policy (
  account_id TEXT NOT NULL COMMENT '交易账户 ID（全局唯一）',
  version BIGINT NOT NULL COMMENT '策略版本；与 Reserve 的 risk_config_version 对齐',
  valid_until_unix_ms BIGINT NOT NULL COMMENT '策略失效时间（Unix 毫秒）；0 表示由服务端 TTL 决定',
  max_notional DOUBLE NOT NULL COMMENT '账户名义金额硬上限',
  max_margin DOUBLE NOT NULL COMMENT '账户保证金占用硬上限',
  max_gross_exposure DOUBLE NOT NULL COMMENT '账户总敞口硬上限',
  max_net_exposure DOUBLE NOT NULL COMMENT '账户净敞口硬上限',
  max_open_orders BIGINT NOT NULL COMMENT '未完成订单数硬上限',
  max_daily_loss DOUBLE NOT NULL COMMENT '账户日内损失硬上限（绝对值）',
  safety_buffer DOUBLE NOT NULL COMMENT '安全缓冲；实例预算之和须不超过硬上限减该值',
  enabled BOOLEAN NOT NULL COMMENT '是否启用账户级硬限制',
  PRIMARY KEY (account_id)
);
"]
  indexSqls := [
    "CREATE INDEX IF NOT EXISTS idx_account_risk_policy_enabled ON account_risk_policy (enabled);"]

/-- The table `order_reservation`. -/
def orderReservationDdl : ITableDdl where
  databaseName := "account_risk"
  tableName := "order_reservation"
  createTableSqls := ["
CREATE TABLE IF NOT EXISTS order_reservation (
  account_id TEXT NOT NULL COMMENT '交易账户 ID（全局唯一）',
  order_id TEXT NOT NULL COMMENT '全局订单 ID',
  reservation_id TEXT NOT NULL COMMENT '预占 ID',
  engine_id TEXT NOT NULL COMMENT '发起预占的引擎实例 ID',
  strategy_id TEXT NOT NULL COMMENT '策略 ID；可为空',
  instrument_id TEXT NOT NULL COMMENT '合约/品种 ID',
  side TEXT NOT NULL COMMENT '买卖方向',
  reserved_notional DOUBLE NOT NULL COMMENT '预占名义金额',
  reserved_margin DOUBLE NOT NULL COMMENT '预占保证金',
  quantity BIGINT NOT NULL COMMENT '预占数量',
  status TEXT NOT NULL COMMENT '预占状态：reserved / released / settled / expired',
  expires_at_unix_ms BIGINT NOT NULL COMMENT '预占过期时间（Unix 毫秒）',
  created_at_unix_ms BIGINT NOT NULL COMMENT '创建时间（Unix 毫秒）',
  updated_at_unix_ms BIGINT NOT NULL COMMENT '最近更新时间（Unix 毫秒）',
  PRIMARY KEY (account_id, order_id)
);
"]
  indexSqls := [
    "CREATE INDEX IF NOT EXISTS idx_order_reservation_status ON order_reservation (account_id, status);",
    "CREATE INDEX IF NOT EXISTS idx_order_reservation_expires ON order_reservation (expires_at_unix_ms);"]

/-- The table `account_risk_ledger`. -/
def accountRiskLedgerDdl : ITableDdl where
  databaseName := "account_risk"
  tableName := "account_risk_ledger"
  createTableSqls := ["
CREATE TABLE IF NOT EXISTS account_risk_ledger (
  account_id TEXT NOT NULL COMMENT '交易账户 ID（全局唯一）',
  ledger_version BIGINT NOT NULL COMMENT '账簿版本；每次结算/预占变更递增',
  filled_notional DOUBLE NOT NULL COMMENT '已成交占用名义金额',
  filled_margin DOUBLE NOT NULL COMMENT '已成交占用保证金',
  reserved_notional DOUBLE NOT NULL COMMENT '已预占名义金额',
  reserved_margin DOUBLE NOT NULL COMMENT '已预占保证金',
  reserved_open_orders BIGINT NOT NULL COMMENT '已预占未完成订单数',
  gross_exposure DOUBLE NOT NULL COMMENT '当前总敞口',
  net_exposure DOUBLE NOT NULL COMMENT '当前净敞口',
  daily_pnl DOUBLE NOT NULL COMMENT '日内盈亏（亏损为负）',
  updated_at_unix_ms BIGINT NOT NULL COMMENT '最近更新时间（Unix 毫秒）',
  PRIMARY KEY (account_id)
);
"]
  indexSqls := [
    "CREATE INDEX IF NOT EXISTS idx_account_risk_ledger_updated ON account_risk_ledger (updated_at_unix_ms);"]

/-! ## The tables of the services -/

/-- The tables of the account service, in the order in which it creates them. -/
def accountTables : List ITableDdl := [tradingAccountDdl, accountCredentialDdl]

/-- The tables of the config service. -/
def configTables : List ITableDdl :=
  [engineConfigDdl, tenantRiskPolicyDdl, instanceRiskPolicyDdl, strategyRiskPolicyDdl,
    instrumentRiskPolicyDdl, orderRiskPolicyDdl, quoteHealthPolicyDdl]

/-- The tables of the account risk service. -/
def accountRiskTables : List ITableDdl :=
  [accountRiskPolicyDdl, orderReservationDdl, accountRiskLedgerDdl]

/-- The statements of a table: the first one declares it, and the others indexes of its columns. -/
structure ITableDdl.Sound (schema : ITableDdl) (table : TableSchema) : Prop where
  declares : ∃ sql columns primaryKey, schema.createTableSqls = [sql] ∧
    readDefinition sql = some (.createTable schema.tableName columns primaryKey) ∧
    tableOf columns primaryKey = table
  indexes : ∀ sql ∈ schema.indexSqls, ∃ name columns,
    readDefinition sql = some (.createIndex name schema.tableName columns) ∧
      ∀ column ∈ columns, column ∈ table.columns

/-- Every statement of a table is read, and declares at most the table. -/
lemma ITableDdl.Sound.exists_of_mem {schema : ITableDdl} {table : TableSchema}
    (h : schema.Sound table) {sql : String} (hsql : sql ∈ schema.sqls) :
    ∃ definition, readDefinition sql = some definition ∧
      ∀ declared ∈ definition.declares, declared = (schema.tableName, table) := by
  obtain ⟨create, columns, primaryKey, hcreate, hread, rfl⟩ := h.declares
  rcases List.mem_append.mp hsql with hsql | hsql
  · rw [hcreate] at hsql
    obtain rfl := List.mem_singleton.mp hsql
    exact ⟨_, hread, fun declared hdeclared => (Option.some.inj hdeclared).symm⟩
  · obtain ⟨name, columns', hindex, -⟩ := h.indexes sql hsql
    exact ⟨_, hindex, nofun⟩

/-- One of the statements of a table declares it. -/
lemma ITableDdl.Sound.exists_declares {schema : ITableDdl} {table : TableSchema}
    (h : schema.Sound table) : ∃ sql ∈ schema.sqls, ∃ definition,
      readDefinition sql = some definition ∧
        definition.declares = some (schema.tableName, table) := by
  obtain ⟨create, columns, primaryKey, hcreate, hread, rfl⟩ := h.declares
  exact ⟨create, by simp [sqls, hcreate], _, hread, rfl⟩

/-- The statements of a table declare one table only. -/
lemma ITableDdl.Sound.unique {schema : ITableDdl} {table table' : TableSchema}
    (h : schema.Sound table) (h' : schema.Sound table') : table = table' := by
  obtain ⟨create, columns, primaryKey, hcreate, hread, rfl⟩ := h.declares
  obtain ⟨create', columns', primaryKey', hcreate', hread', rfl⟩ := h'.declares
  obtain rfl := List.singleton_inj.mp (hcreate.symm.trans hcreate')
  obtain ⟨-, rfl, rfl⟩ := Definition.createTable.inj (Option.some.inj (hread.symm.trans hread'))
  rfl

/-- The table that the characters of a statement declare under its name. -/
def declaredTable (tableName : String) (text : List Char) : Option TableSchema :=
  match (lexFrom .between text).bind readDefinitionTokens with
  | some (.createTable name columns primaryKey) =>
    if name = tableName then some (tableOf columns primaryKey) else none
  | _ => none

/-- Whether the characters of a statement declare an index of columns of the table. -/
def indexesColumns (tableName : String) (table : TableSchema) (text : List Char) : Bool :=
  match (lexFrom .between text).bind readDefinitionTokens with
  | some (.createIndex _ name columns) =>
    name = tableName ∧ ∀ column ∈ columns, column ∈ table.columns
  | _ => false

/-- The statements of a table, given by their characters, can be checked by reading them.

**Proof sketch.** Reading the definition and the indexes from their characters succeeds, with the
declared columns. -/
lemma ITableDdl.sound_of_chars {d t : String} {c : List Char} {i : List (List Char)}
    {table : TableSchema} (hdeclares : declaredTable t c = some table)
    (hindexes : i.all (indexesColumns t table)) :
    (ITableDdl.mk d t [String.ofList c] (i.map String.ofList)).Sound table := by
  constructor
  · unfold declaredTable at hdeclares
    split at hdeclares
    · next name columns primaryKey hread =>
      split_ifs at hdeclares with hname
      subst hname
      exact ⟨_, columns, primaryKey, rfl, by rw [readDefinition_ofList, hread],
        Option.some.inj hdeclares⟩
    · cases hdeclares
  · intro sql hsql
    obtain ⟨text, htext, rfl⟩ := List.mem_map.mp hsql
    have hindex := List.all_eq_true.mp hindexes text htext
    unfold indexesColumns at hindex
    split at hindex
    · next name table' columns hread =>
      obtain ⟨rfl, hcolumns⟩ := of_decide_eq_true hindex
      exact ⟨name, columns, by rw [readDefinition_ofList, hread], hcolumns⟩
    · cases hindex

/-- The statements of a table, given by their characters, declare what they are read as. -/
lemma ITableDdl.exists_sound_of_chars {d t : String} {c : List Char} {i : List (List Char)}
    (h : (declaredTable t c).any fun table => i.all (indexesColumns t table)) :
    ∃ table, (ITableDdl.mk d t [String.ofList c] (i.map String.ofList)).Sound table := by
  cases hdeclares : declaredTable t c with
  | none => rw [hdeclares] at h; cases h
  | some table =>
    rw [hdeclares] at h
    exact ⟨table, sound_of_chars hdeclares h⟩

set_option maxRecDepth 20000 in
/-- The account service creates the tables that its data access objects work on. -/
lemma sound_accountTables :
    tradingAccountDdl.Sound tradingAccountTable ∧
      accountCredentialDdl.Sound accountCredentialTable :=
  ⟨ITableDdl.sound_of_chars (i := []) (by decide +kernel) rfl,
    ITableDdl.sound_of_chars (i := []) (by decide +kernel) rfl⟩

set_option maxRecDepth 20000 in
/-- The config service creates the table that it reads. -/
lemma sound_engineConfigDdl : engineConfigDdl.Sound engineConfigTable :=
  ITableDdl.sound_of_chars (i := []) (by decide +kernel) rfl

set_option maxRecDepth 20000 in
/-- The tables of the policies are in order as well. -/
lemma sound_policyTables :
    (∃ table, tenantRiskPolicyDdl.Sound table) ∧ (∃ table, instanceRiskPolicyDdl.Sound table) ∧
      (∃ table, strategyRiskPolicyDdl.Sound table) ∧
      (∃ table, instrumentRiskPolicyDdl.Sound table) ∧
      (∃ table, orderRiskPolicyDdl.Sound table) ∧ ∃ table, quoteHealthPolicyDdl.Sound table :=
  ⟨ITableDdl.exists_sound_of_chars (i := [_]) (by decide +kernel),
    ITableDdl.exists_sound_of_chars (i := [_]) (by decide +kernel),
    ITableDdl.exists_sound_of_chars (i := [_]) (by decide +kernel),
    ITableDdl.exists_sound_of_chars (i := [_]) (by decide +kernel),
    ITableDdl.exists_sound_of_chars (i := []) (by decide +kernel),
    ITableDdl.exists_sound_of_chars (i := [_]) (by decide +kernel)⟩

set_option maxRecDepth 20000 in
/-- So are the tables of the account risk service. -/
lemma sound_accountRiskTables :
    (∃ table, accountRiskPolicyDdl.Sound table) ∧ (∃ table, orderReservationDdl.Sound table) ∧
      ∃ table, accountRiskLedgerDdl.Sound table :=
  ⟨ITableDdl.exists_sound_of_chars (i := [_]) (by decide +kernel),
    ITableDdl.exists_sound_of_chars (i := [_, _]) (by decide +kernel),
    ITableDdl.exists_sound_of_chars (i := [_]) (by decide +kernel)⟩

end Dao
