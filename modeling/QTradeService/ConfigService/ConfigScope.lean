import Mathlib
import QTradeService.ConfigService.Messages
import QTradeService.Dao.EngineConfigTable

set_option relaxedAutoImplicit false
set_option autoImplicit false

/-!
# Looking up a configuration

`QueryEngineConfig` (`config_scope.cpp`) and `ConfigGrpcAsyncHandler::QueryConfig`: the stored
configuration of an engine, or a default one if there is none. The payload of a row is JSON text,
which a function outside of the repository turns into a message.

## Main definitions

* `ConfigService.queryEngineConfig`, `ConfigService.queryConfig` — the two functions.
* `ConfigService.StoredConfig` — a row of `engine_config` as the service sees it.
* `ConfigService.answerFor` — the configuration that the service answers with.

## Main results

* `ConfigService.queryConfig_ensures` — on a database that conforms, it is what `queryConfig`
  answers.
-/

namespace ConfigService

open Sql Database

variable {α : Type} (convertJsonToProto : String → Option (EngineConfig α))

/-! ## The functions -/

/-- `QueryEngineConfig`. -/
def queryEngineConfig (scope : ConfigScope) : Db (EngineConfig α) := do
  let result ← Dao.EngineConfig.select
    { tenantId := some scope.tenantId, engineId := some scope.engineId }
  if result.errorCode = .kNotFound ∨
      (result.errorCode = .kSuccess ∧ result.data.getD [] = []) then
    return { version := 1, engineId := scope.engineId }
  if result.errorCode ≠ .kSuccess then
    return {}
  match (result.data.getD []).head? with
  | none => return {}
  | some record =>
    match record.payload.bind convertJsonToProto with
    | none => return {}
    | some engine =>
      let engine := { engine with version := record.version.getD 0 }
      if engine.engineId = "" then
        return { engine with engineId := scope.engineId }
      return engine

/-- `ConfigGrpcAsyncHandler::QueryConfig`, for managers that exist. -/
def queryConfig (scope : ConfigScope) : Db (EngineConfig α) := do
  if !(← acquire "config") then
    return {}
  queryEngineConfig convertJsonToProto scope

/-! ## Stored configurations -/

/-- A stored configuration. The version is read as a signed number of 64 bits. -/
structure StoredConfig where
  version : ℕ
  payload : String
  version_lt : version < 2 ^ 63
  deriving DecidableEq, Repr

/-- The row of a stored configuration. -/
def StoredConfig.row (scope : ConfigScope) (stored : StoredConfig) : Row :=
  Row.ofValues [("tenant_id", scope.tenantId), ("engine_id", scope.engineId),
    ("version", toString stored.version), ("payload", stored.payload)]

/-- The table holds this configuration, or none, for the scope. -/
def Holds (store : Store Dao.configSchema) (scope : ConfigScope) (stored : Option StoredConfig) :
    Prop :=
  store.select Dao.EngineConfig.tableName
    [("tenant_id", scope.tenantId), ("engine_id", scope.engineId)] =
      (stored.map (StoredConfig.row scope)).toList

/-- The configuration that is answered for a parsed payload. -/
def configOf (scope : ConfigScope) (version : ℕ) (engine : EngineConfig α) : EngineConfig α :=
  { engine with
    version := version
    engineId := if engine.engineId = "" then scope.engineId else engine.engineId }

/-- The configuration that is answered for what is stored: a default one if nothing is, and an
empty one if the payload cannot be parsed. -/
def answerFor (scope : ConfigScope) : Option StoredConfig → EngineConfig α
  | none => { version := 1, engineId := scope.engineId }
  | some stored => (convertJsonToProto stored.payload).elim {} (configOf scope stored.version)

/-- The record of a stored configuration. -/
lemma ofRow_row (scope : ConfigScope) (stored : StoredConfig) :
    Dao.EngineConfigRecord.ofRow (stored.row scope) =
      { tenantId := some scope.tenantId
        engineId := some scope.engineId
        version := some stored.version
        payload := some stored.payload } := by
  have hrow : Dao.EngineConfigRecord.ofRow (stored.row scope) =
      { tenantId := some scope.tenantId
        engineId := some scope.engineId
        version := (toString stored.version).toInt?.map fun value => (BitVec.ofInt 64 value).toNat
        payload := some stored.payload } := rfl
  rw [hrow, Dao.read_version stored.version_lt]

/-- `queryConfig` on a database that conforms and does not fail.

**Proof sketch.** The statement selects the rows of the scope, whose fields are not empty, and
there is at most one of them. -/
lemma queryConfig_ensures {σ : Type} {db : Program.Handler Call.Answer σ}
    {content : σ → Session Dao.configSchema} {counting : Counting}
    (hdb : ConformsInFull False counting db content) {scope : ConfigScope}
    (htenant : scope.tenantId ≠ "") (hengine : scope.engineId ≠ "") {stored : Option StoredConfig}
    (s : σ) (hholds : Holds (content s).view scope stored) :
    (queryConfig convertJsonToProto scope).Ensures db s fun config s' =>
      config = answerFor convertJsonToProto scope stored ∧ content s' = content s := by
  refine checked_ensures
    (fun config session => config = answerFor convertJsonToProto scope stored ∧ session = content s)
    (hdb.acquire s "config") rfl (fun h => h.elim) ?_
  intro s₁ hs₁
  refine (Dao.EngineConfig.select_ensures hdb _ s₁).bind ?_
  intro result s₂ hresult
  obtain ⟨hresult, hs₂⟩ := hresult
  cases hresult with
  | failed h => exact h.elim
  | @answered records hrecords =>
    obtain ⟨rows, rfl, hperm⟩ := hrecords
    -- the rows that were selected are those of the scope
    have hconditions : Dao.conditionsOf (Dao.buildEngineConfigValues
        { tenantId := some scope.tenantId, engineId := some scope.engineId }) =
          [("tenant_id", scope.tenantId), ("engine_id", scope.engineId)] := by
      simp [Dao.buildEngineConfigValues, Dao.addTextValue, Dao.addUInt64Value, Dao.conditionsOf,
        htenant, hengine]
    have hrows : rows = (stored.map (StoredConfig.row scope)).toList := by
      rw [hconditions, hs₁, hholds] at hperm
      cases stored with
      | none => exact List.perm_nil.mp hperm
      | some stored => exact List.perm_singleton.mp hperm
    have hcontent : content s₂ = content s := hs₂.trans hs₁
    cases stored with
    | none =>
      have hnone : rows = [] := hrows
      simp only [hnone, List.map_nil, Option.getD_some, and_self, or_true, if_true]
      exact .pure ⟨rfl, hcontent⟩
    | some stored =>
      have hsome : rows = [stored.row scope] := hrows
      simp only [hsome, List.map_cons, List.map_nil, ofRow_row, Option.getD_some, List.head?_cons,
        Option.bind_some, reduceCtorEq, and_false, or_false, if_false, ne_eq, not_true_eq_false]
      cases hparsed : convertJsonToProto stored.payload with
      | none =>
        refine .pure ⟨?_, hcontent⟩
        simp [answerFor, hparsed]
      | some engine =>
        by_cases hid : engine.engineId = ""
        · simp only [hid, if_true]
          refine .pure ⟨?_, hcontent⟩
          simp [answerFor, hparsed, configOf, hid]
        · simp only [hid, if_false]
          refine .pure ⟨?_, hcontent⟩
          simp [answerFor, hparsed, configOf, hid]

end ConfigService
