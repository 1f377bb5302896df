import Mathlib.Data.Int.Notation
import Mathlib.Data.Nat.Notation

set_option relaxedAutoImplicit false
set_option autoImplicit false

/-!
# The messages of the config service

The protobuf messages of `config/v1/config.proto`. An engine receives its configuration as a
whole, so `EngineConfig` has all its fields; a `double` in it has a type `α` of its own, for no
function computes with it. A `uint64` is a natural number and an `int32` or `int64` an integer.

## Main definitions

* `ConfigService.EngineConfig` — the configuration of an engine.
* `ConfigService.GetEngineConfigRequest`, `ConfigService.SubscribeEngineConfigRequest` and their
  responses.
* `ConfigService.ConfigScope` — which row holds the configuration that a request is about.
-/

namespace ConfigService

/-! ## Configurations -/

/-- A strategy of an engine (`StrategyConfig`). -/
structure StrategyConfig (α : Type) where
  strategyId : String
  strategyName : String
  enabled : Bool
  instruments : List String
  orderVolume : ℤ
  maxPositionVolume : ℤ
  orderCooldownMs : ℤ
  windowSize : Option ℤ
  orderThreshold : Option α
  stopLossPercent : Option α
  takeProfitPercent : Option α
  deriving DecidableEq, Repr

/-- The risk limits that the strategies of an engine share (`InstanceRiskConfig`). -/
structure InstanceRiskConfig (α : Type) where
  version : ℕ
  maxOrderVolume : ℤ
  maxOrderNotional : α
  maxOpenOrders : ℕ
  maxPendingNotional : α
  deriving DecidableEq, Repr

/-- The configuration of an engine (`EngineConfig`), at first with no field set. -/
structure EngineConfig (α : Type) where
  engineId : String := ""
  tenantId : String := ""
  accountId : String := ""
  quoteSource : String := ""
  quoteFailover : String := ""
  validUntilUnixMs : ℤ := 0
  executionAdapter : String := ""
  quoteConnectionString : String := ""
  /-- The version of the configuration; a subscriber is only sent later ones. -/
  version : ℕ := 0
  quoteMaxStaleMs : ℤ := 0
  strategies : List (StrategyConfig α) := []
  instanceRisk : Option (InstanceRiskConfig α) := none
  deriving DecidableEq, Repr

/-! ## Requests and responses -/

/-- `GetEngineConfigRequest`. -/
structure GetEngineConfigRequest where
  engineId : String
  deriving DecidableEq, Repr

/-- `GetEngineConfigResponse`. -/
structure GetEngineConfigResponse (α : Type) where
  engine : EngineConfig α := {}
  deriving DecidableEq, Repr

/-- `SubscribeEngineConfigRequest`. -/
structure SubscribeEngineConfigRequest where
  engineId : String := ""
  /-- The latest version that the client has; `0` asks for the current configuration. -/
  sinceVersion : ℕ := 0
  deriving DecidableEq, Repr

/-- `SubscribeEngineConfigResponse`: one configuration that is pushed. -/
structure SubscribeEngineConfigResponse (α : Type) where
  engine : EngineConfig α := {}
  deriving DecidableEq, Repr

/-! ## Scopes -/

/-- The primary key of a stored configuration. -/
structure ConfigScope where
  tenantId : String := "default"
  engineId : String := "default"
  deriving DecidableEq, Repr

/-- `NormalizeScopeField`. -/
def normalizeScopeField (value : String) : String :=
  if value = "" then "default" else value

/-- `MakeConfigScope` of a `GetEngineConfig` request. -/
def GetEngineConfigRequest.makeConfigScope (request : GetEngineConfigRequest) : ConfigScope where
  tenantId := "default"
  engineId := normalizeScopeField request.engineId

/-- `MakeConfigScope` of a `SubscribeEngineConfig` request. -/
def SubscribeEngineConfigRequest.makeConfigScope (request : SubscribeEngineConfigRequest) :
    ConfigScope where
  tenantId := "default"
  engineId := normalizeScopeField request.engineId

end ConfigService
