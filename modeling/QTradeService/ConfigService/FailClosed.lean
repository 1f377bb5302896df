import QTradeService.ConfigService.ConfigScope
import QTradeService.ConfigService.Listeners

set_option relaxedAutoImplicit false
set_option autoImplicit false

/-!
# Lookups that fail

`GetEngineConfig` on a database that answers its calls in any way: there may be no connection, the
statement may fail, and the columns of a row may be unreadable. The failures are lost one after the
other. `QueryEngineConfig` turns the codes of the data access object into an empty configuration,
and the callback of the tag finishes every call with `OK`.

## Main definitions

* `ConfigService.storedRows` — what the database says about a scope.
* `ConfigService.Determined` — a configuration that these rows determine.
* `ConfigService.FailsClosed` — a call that ends with `OK` carries such a configuration.

## Main results

* `ConfigService.run_queryConfig` — what `QueryConfig` answers.
* `ConfigService.failsClosed_iff` — the databases on which `GetEngineConfig` fails closed.
* `ConfigService.Delivered.write_determined` — `SubscribeEngineConfig` never sends what a failed
  lookup answers.
-/

namespace ConfigService

open Grpc Database

variable {α σ : Type} (convertJsonToProto : String → Option (EngineConfig α))

/-! ## What the database says -/

/-- The statement that looks a scope up. -/
def lookupSql (scope : ConfigScope) : String :=
  "SELECT * FROM " ++ Dao.EngineConfig.tableName ++
    Dao.buildWhereSql [("tenant_id", scope.tenantId), ("engine_id", scope.engineId)]

/-- The rows that the database returns for a scope, unless there is no connection or the statement
fails. -/
def storedRows (db : Program.Handler Call.Answer σ) (scope : ConfigScope) (s : σ) :
    Option (List ResultRow) :=
  let acquired := db (.acquire "config") s
  let connected := db .isConnected acquired.2
  if acquired.1 && connected.1 then (db (.query (lookupSql scope)) connected.2).1 else none

/-- A configuration that the rows of a scope determine: the default one if there is no row, or else
the payload of the row with the version of the row and an engine. -/
inductive Determined (scope : ConfigScope) : Option (List ResultRow) → EngineConfig α → Prop
  | missing : Determined scope (some []) { version := 1, engineId := scope.engineId }
  | stored {row : ResultRow} {rest : List ResultRow} {version : ℕ} {payload engineId : String}
      {engine : EngineConfig α} (hversion : Dao.assignUInt64Field row "version" = some version)
      (hpayload : Dao.assignTextField row "payload" = some payload)
      (hparsed : convertJsonToProto payload = some engine)
      (hgiven : engine.engineId ≠ "" → engineId = engine.engineId) (hengine : engineId ≠ "") :
      Determined scope (some (row :: rest)) { engine with version := version, engineId := engineId }

/-- The rows of a scope are known, and there is none, or the version of the first one can be read
and its payload read and parsed. -/
def Readable : Option (List ResultRow) → Prop
  | none => False
  | some [] => True
  | some (row :: _) =>
    (Dao.assignUInt64Field row "version").isSome ∧
      ((Dao.assignTextField row "payload").bind convertJsonToProto).isSome

/-! ## What is answered -/

/-- What `QueryConfig` answers for the rows of a scope. -/
def lookedUp (scope : ConfigScope) : Option (List ResultRow) → EngineConfig α
  | none => {}
  | some [] => { version := 1, engineId := scope.engineId }
  | some (row :: _) =>
    ((Dao.assignTextField row "payload").bind convertJsonToProto).elim {}
      (configOf scope ((Dao.assignUInt64Field row "version").getD 0))

/-- What `QueryConfig` answers on a database. -/
def answering (db : Program.Handler Call.Answer σ) (s : σ) (scope : ConfigScope) :
    EngineConfig α :=
  ((queryConfig convertJsonToProto scope).run db s).1

/-- What a new `GetEngineConfig` tag does when it receives a request. -/
def handled (db : Program.Handler Call.Answer σ) (s : σ) (request : GetEngineConfigRequest) :
    List (UnaryEffect GetEngineConfigRequest (GetEngineConfigResponse α)) :=
  let handlerFn := getEngineConfig (answering convertJsonToProto db s)
  ((UnaryOnQueue.created handlerFn { engineId := "" } {}).deliver handlerFn
    { operation := .request, ok := true, request := request }).1.getD []

/-- If the call is finished with `OK`, then the database determines what it carries. -/
def FailsClosed (db : Program.Handler Call.Answer σ) (s : σ) (request : GetEngineConfigRequest) :
    Prop :=
  ∀ response status, .finish response status ∈ handled convertJsonToProto db s request →
    status.code = .ok →
      Determined convertJsonToProto request.makeConfigScope
        (storedRows db request.makeConfigScope s) response.engine

/-! ## Results -/

/-- A request always names an engine in the end. -/
lemma normalizeScopeField_ne (value : String) : normalizeScopeField value ≠ "" := by
  unfold normalizeScopeField
  split
  · decide
  · assumption

/-- The select of the data access object.

**Proof sketch.** By whether the connection is there, and by what the query answers. -/
lemma run_select (db : Program.Handler Call.Answer σ) (scope : ConfigScope) (s : σ) :
    ((Dao.EngineConfig.select
        { tenantId := some scope.tenantId, engineId := some scope.engineId }).run db s).1 =
      (if (db .isConnected s).1 = true then
          (db (.query (lookupSql scope)) (db .isConnected s).2).1 else none).elim
        (.void .kSystemError "")
        fun rows => ⟨.kSuccess, "", some (rows.map Dao.buildEngineConfigRecord)⟩ := by
  have hvalues : Dao.buildEngineConfigValues
      { tenantId := some scope.tenantId, engineId := some scope.engineId } =
        [("tenant_id", scope.tenantId), ("engine_id", scope.engineId)] := rfl
  unfold Dao.EngineConfig.select Dao.selectRows isConnected query
  rw [hvalues]
  cases hconnected : (db .isConnected s).1 with
  | false =>
    simp only [Program.run_bind, Program.run_request, hconnected, Bool.not_false, if_true]
    rfl
  | true =>
    simp only [Program.run_bind, Program.run_request, hconnected, Bool.not_true, Bool.false_eq_true,
      if_false, if_true]
    have hsql : "SELECT * FROM " ++ Dao.EngineConfig.tableName ++
        Dao.buildWhereSql [("tenant_id", scope.tenantId), ("engine_id", scope.engineId)] =
          lookupSql scope := rfl
    rw [hsql]
    cases hrows : (db (.query (lookupSql scope)) (db .isConnected s).2).1 with
    | none => rfl
    | some rows => rfl

/-- What `QueryConfig` answers.

**Proof sketch.** By whether a connection is acquired, and then by what the selection answers: an
error, no row, or a row that is parsed and carries an id or not. -/
theorem run_queryConfig (db : Program.Handler Call.Answer σ) (scope : ConfigScope) (s : σ) :
    answering convertJsonToProto db s scope =
      lookedUp convertJsonToProto scope (storedRows db scope s) := by
  unfold answering queryConfig acquire storedRows
  cases hacquired : (db (.acquire "config") s).1 with
  | false =>
    simp only [Program.run_bind, Program.run_request, hacquired, Bool.not_false, if_true,
      Bool.false_and]
    rfl
  | true =>
    simp only [Program.run_bind, Program.run_request, hacquired, Bool.not_true, Bool.false_eq_true,
      if_false, Bool.true_and]
    unfold queryEngineConfig
    rw [Program.run_bind, run_select]
    cases (if (db .isConnected (db (.acquire "config") s).2).1 = true then
        (db (.query (lookupSql scope)) (db .isConnected (db (.acquire "config") s).2).2).1
      else none) with
    | none => rfl
    | some rows =>
      cases rows with
      | nil => rfl
      | cons row rest =>
        cases hparsed : (Dao.assignTextField row "payload").bind convertJsonToProto with
        | none =>
          simp [lookedUp, Dao.buildEngineConfigRecord, hparsed]
          rfl
        | some engine =>
          by_cases hid : engine.engineId = ""
          · simp [lookedUp, Dao.buildEngineConfigRecord, hparsed, configOf, hid]
            rfl
          · simp [lookedUp, Dao.buildEngineConfigRecord, hparsed, configOf, hid]
            rfl

/-- A new tag that receives a request answers it with what `QueryConfig` answers, and with `OK`. -/
lemma handled_eq (db : Program.Handler Call.Answer σ) (s : σ) (request : GetEngineConfigRequest) :
    handled convertJsonToProto db s request =
      [.handlerFn request,
        .finish ⟨answering convertJsonToProto db s request.makeConfigScope⟩ .OK] :=
  rfl

variable {convertJsonToProto} in
/-- Only readable rows determine a configuration. -/
lemma Determined.readable {scope : ConfigScope} {rows : Option (List ResultRow)}
    {config : EngineConfig α} (h : Determined convertJsonToProto scope rows config) :
    Readable convertJsonToProto rows := by
  cases h with
  | missing => trivial
  | @stored row _ version payload _ engine hversion hpayload hparsed =>
    have hbind : (Dao.assignTextField row "payload").bind convertJsonToProto = some engine := by
      rw [hpayload, Option.bind_some, hparsed]
    exact ⟨Option.isSome_of_eq_some hversion, Option.isSome_of_eq_some hbind⟩

/-- Readable rows determine what the service answers.

**Proof sketch.** There is no row, or the first one has a version and a payload that is parsed; the
answer is built from these two. -/
lemma determined_lookedUp {scope : ConfigScope} (hengine : scope.engineId ≠ "")
    {rows : Option (List ResultRow)} (h : Readable convertJsonToProto rows) :
    Determined convertJsonToProto scope rows (lookedUp convertJsonToProto scope rows) := by
  match rows, h with
  | some [], _ => exact .missing
  | some (row :: rest), ⟨hversion, hparsed⟩ =>
    obtain ⟨version, hversion⟩ := Option.isSome_iff_exists.mp hversion
    obtain ⟨engine, hparsed⟩ := Option.isSome_iff_exists.mp hparsed
    obtain ⟨payload, hpayload, hpayload'⟩ := Option.bind_eq_some_iff.mp hparsed
    have hlookedUp : lookedUp convertJsonToProto scope (some (row :: rest)) =
        configOf scope version engine := by
      simp [lookedUp, hparsed, hversion]
    rw [hlookedUp]
    refine .stored hversion hpayload hpayload' (fun hne => if_neg hne) ?_
    split <;> assumption

/-- **When `GetEngineConfig` fails closed.** A call that ends with `OK` carries a configuration
that the database determines, if and only if there is a connection, the statement does not fail,
and there is no row or the version and the payload of the first one can be read and the payload
parsed.

**Proof sketch.** The callback ends every call with `OK`, whatever `QueryConfig` answers. -/
theorem failsClosed_iff (db : Program.Handler Call.Answer σ) (s : σ)
    (request : GetEngineConfigRequest) :
    FailsClosed convertJsonToProto db s request ↔
      Readable convertJsonToProto (storedRows db request.makeConfigScope s) := by
  have hengine : request.makeConfigScope.engineId ≠ "" := normalizeScopeField_ne request.engineId
  unfold FailsClosed
  rw [handled_eq]
  constructor
  · intro h
    have hdetermined :=
      h ⟨answering convertJsonToProto db s request.makeConfigScope⟩ .OK (by simp) rfl
    exact hdetermined.readable
  · intro h response status hmem _
    obtain ⟨rfl, -⟩ : response = ⟨answering convertJsonToProto db s request.makeConfigScope⟩ ∧
        status = .OK := by simpa using hmem
    rw [run_queryConfig]
    exact determined_lookedUp convertJsonToProto hengine h

/-- A database with a connection on which every query fails. -/
def queryFails : Program.Handler Call.Answer Unit
  | .isReady, s | .acquire _, s | .isConnected, s => (true, s)
  | .lastError, s => ("query failed", s)
  | .beginTransaction, s | .commitTransaction, s | .rollbackTransaction, s => (true, s)
  | .execute _, s => (none, s)
  | .query _, s => (none, s)

/-- A lookup that fails is answered with `OK` and an empty configuration: no engine, no strategies
and no risk limits. -/
theorem failed_lookup_ok :
    .finish ⟨{}⟩ .OK ∈
        handled (fun _ : String => (none : Option (EngineConfig ℤ))) queryFails () ⟨"engine-1"⟩ ∧
      ¬FailsClosed (fun _ : String => (none : Option (EngineConfig ℤ))) queryFails ()
        ⟨"engine-1"⟩ := by
  have hmem : .finish ⟨{}⟩ .OK ∈
      handled (fun _ : String => (none : Option (EngineConfig ℤ))) queryFails ()
        ⟨"engine-1"⟩ := by
    rw [handled_eq, run_queryConfig]
    exact List.mem_cons_of_mem _ (List.mem_singleton_self _)
  refine ⟨hmem, fun h => ?_⟩
  have hdetermined := h _ _ hmem rfl
  exact hdetermined.readable

/-! ## Subscriptions -/

variable {convertJsonToProto} in
/-- A configuration with a version is determined.

**Proof sketch.** A failed query, a payload that is not parsed and a version that is not read all
give the version 0. -/
lemma determined_of_version_ne {db : Program.Handler Call.Answer σ} {s : σ} {scope : ConfigScope}
    (hengine : scope.engineId ≠ "")
    (hversion : (answering convertJsonToProto db s scope).version ≠ 0) :
    Determined convertJsonToProto scope (storedRows db scope s)
      (answering convertJsonToProto db s scope) := by
  rw [run_queryConfig] at hversion ⊢
  refine determined_lookedUp convertJsonToProto hengine ?_
  match hrows : storedRows db scope s with
  | none => simp [hrows, lookedUp] at hversion
  | some [] => trivial
  | some (row :: rest) =>
    rw [hrows] at hversion
    unfold lookedUp at hversion
    cases hparsed : (Dao.assignTextField row "payload").bind convertJsonToProto with
    | none => simp [hparsed] at hversion
    | some engine =>
      cases hread : Dao.assignUInt64Field row "version" with
      | none => simp [hparsed, hread, configOf] at hversion
      | some version => exact ⟨by rw [hread]; rfl, by rw [hparsed]; rfl⟩

/-- What a subscription sends is determined by the database: what a lookup answers that fails has
no version, so it is never later than what the client has.

**Proof sketch.** By what the completion does. Only a poll writes, and it writes what it has read if
the version is greater, so that it is not 0. -/
theorem Delivered.write_determined {completion : Completion α} {tag tag' : TagOnQueue α}
    {effects : List (Effect α)} (h : Delivered completion tag effects tag')
    {db : Program.Handler Call.Answer σ} {s : σ}
    (hconfig : completion.config = answering convertJsonToProto db s)
    (hengine : (completion.poller tag.tag).scope.engineId ≠ "")
    {response : SubscribeEngineConfigResponse α} (hwrite : .write response ∈ effects) :
    Determined convertJsonToProto (completion.poller tag.tag).scope
      (storedRows db (completion.poller tag.tag).scope s) response.engine := by
  have hspawned : .write response ∉ completion.spawned := by
    intro hmem
    cases completion.mem_spawned hmem
  cases h with
  | @pushed poller config hop hok hpoller hread hversion =>
    have hresponse : response = ⟨config⟩ := by simpa [hspawned] using hwrite
    rw [hresponse, ← hpoller, hread, hconfig]
    rw [← hpoller] at hengine
    refine determined_of_version_ne hengine ?_
    rw [← hconfig, ← hread]
    exact Nat.ne_of_gt (Nat.lt_of_le_of_lt (Nat.zero_le _) hversion)
  | polled => simp [hspawned] at hwrite
  | acknowledged | finished | deleted | stuck => simp at hwrite

end ConfigService
