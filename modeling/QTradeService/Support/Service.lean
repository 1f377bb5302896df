import QTradeService.Dao.Ddl

set_option relaxedAutoImplicit false
set_option autoImplicit false

/-!
# The process of a support service

`ISupportService` and what implements it: the base classes `SupportSyncServiceImpl` and
`SupportAsyncServiceImpl` with the servers `GrpcSyncServer` and `GrpcAsyncServer`, the pool manager
`DbConnectionPoolManager`, and the three services, which share their `Initialize` up to the names,
the tables and one error code. `Initialize`, `Start`, `Stop` and `GetStatus` run under the mutex of
the service, so each of them is a function of the fields of the service. The rest of the world
answers calls: the file system, the pools and connections, gRPC. `Wait` takes no lock.

## Main definitions

* `Support.SupportServiceState`, `Support.SupportServiceStatus` — the life cycle of a service.
* `Support.Call`, `Support.Process` — the calls on the world, and the programs that make them.
* `Support.Service` — the three services.
* `Support.ServiceObject` — the fields of a service.
* `Support.initializeFrom`, `Support.start`, `Support.stop`, `Support.wait`, `Support.getStatus`.
-/

namespace Support

open Dao Database

/-! ## States -/

/-- The states of the life cycle (`SupportServiceState`). -/
inductive SupportServiceState
  | kNew
  | kInitializing
  | kReady
  | kStopping
  | kTerminated
  | kFailed
  deriving DecidableEq, Repr

/-- What a service shows of itself (`SupportServiceStatus`). -/
structure SupportServiceStatus where
  serviceName : String
  configPath : String
  listenAddress : String
  lastErrorMessage : String
  lastError : ErrorCode
  state : SupportServiceState
  deriving DecidableEq, Repr

/-! ## The world -/

/-- The calls on the world. `J` is the type of JSON documents and `ω` that of the options of a
connection pool. -/
inductive Call (J ω : Type)
  /-- `LoadJsonFile`. -/
  | loadJsonFile (path : String)
  /-- `CreateConnectionPool` and `IConnectionPool::Open`. -/
  | openPool (databaseName : String) (options : ω)
  /-- `IConnectionPool::IsOpen`. -/
  | isOpen (databaseName : String)
  /-- `IConnectionPool::Acquire`: whether there is a connection. -/
  | lease (databaseName : String)
  /-- A call on the connection. -/
  | database (call : Database.Call)
  /-- `ServerBuilder::AddCompletionQueue`. -/
  | addCompletionQueue
  /-- `ServerBuilder::BuildAndStart`: whether a server listens. -/
  | buildAndStart (listenAddress : String)
  /-- `Server::Shutdown`. -/
  | shutdownServer
  /-- `Server::Wait`, which returns when the server was shut down. -/
  | waitServer
  /-- `ServerCompletionQueue::Shutdown`. -/
  | shutdownQueue
  /-- `CompletionQueueLoop::Start`. -/
  | startLoop (threadCount : ℕ)
  /-- `CompletionQueueLoop::Stop`. -/
  | stopLoop
  /-- `Init` and `Start` of the handler of an asynchronous service. -/
  | startHandler
  /-- `Shutdown` of the handler of an asynchronous service. -/
  | shutdownHandler

/-- What the calls answer. -/
@[reducible] def Call.Answer {J ω : Type} : Call J ω → Type
  | .loadJsonFile _ => Option J
  | .openPool .. | .isOpen _ | .lease _ => Bool
  | .database call => call.Answer
  | .addCompletionQueue | .buildAndStart _ => Bool
  | .shutdownServer | .waitServer | .shutdownQueue | .startLoop _ | .stopLoop => Unit
  | .startHandler | .shutdownHandler => Unit

/-- Programs that call the world. -/
abbrev Process (J ω : Type) := Program (Call.Answer (J := J) (ω := ω))

variable {J ω : Type}

/-- Make a call. -/
abbrev call (c : Call J ω) : Process J ω c.Answer := Program.request c

/-! ## Connection pools -/

/-- The open pools of a service, by the names of their databases (`DbConnectionPoolManager`). -/
structure DbConnectionPoolManager where
  pools : List String
  deriving DecidableEq, Repr

/-- The loop of `DbConnectionPoolManager::IsReady`. -/
def allOpen : List String → Process J ω Bool
  | [] => return true
  | name :: names => do
    if !(← call (.isOpen name)) then return false
    allOpen names

/-- `DbConnectionPoolManager::IsReady`. -/
def DbConnectionPoolManager.isReady (manager : DbConnectionPoolManager) : Process J ω Bool := do
  if manager.pools = [] then return false
  allOpen manager.pools

/-- `DbConnectionPoolManager::AddConnectionPool`. -/
def DbConnectionPoolManager.addConnectionPool (manager : DbConnectionPoolManager)
    (databaseName : String) (options : ω) : Process J ω (Bool × DbConnectionPoolManager) := do
  if databaseName = "" ∨ databaseName ∈ manager.pools then return (false, manager)
  if !(← call (.openPool databaseName options)) then return (false, manager)
  return (true, ⟨manager.pools ++ [databaseName]⟩)

/-- `DbConnectionPoolManager::Acquire`: whether there is a connection. -/
def DbConnectionPoolManager.acquire (manager : DbConnectionPoolManager) (databaseName : String) :
    Process J ω Bool := do
  if databaseName ∉ manager.pools then return false
  if !(← call (.isOpen databaseName)) then return false
  call (.lease databaseName)

/-! ## Servers -/

/-- A gRPC server (`GrpcSyncServer`, `GrpcAsyncServer`): whether it runs, and whether it holds a
server and, if it is asynchronous, a completion queue and its loop. -/
structure GrpcServer where
  running : Bool
  server : Bool
  cq : Bool
  loop : Bool
  deriving DecidableEq, Repr

/-- A server that was not started. -/
def GrpcServer.new : GrpcServer := ⟨false, false, false, false⟩

/-- `GrpcSyncServer::Start`, for a service that is not null. -/
def GrpcServer.startSync (grpc : GrpcServer) (listenAddress : String) :
    Process J ω (ErrorCode × GrpcServer) := do
  if grpc.running then return (.kSystemError, grpc)
  if listenAddress = "" then return (.kInternalError, grpc)
  if !(← call (.buildAndStart listenAddress)) then
    return (.kInternalError, { grpc with server := false })
  return (.kSuccess, { grpc with running := true, server := true })

/-- `GrpcAsyncServer::Start`, for a service that is not null. -/
def GrpcServer.startAsync (grpc : GrpcServer) (listenAddress : String) (cqThreadCount : ℕ) :
    Process J ω (ErrorCode × GrpcServer) := do
  if grpc.running then return (.kSystemError, grpc)
  if listenAddress = "" then return (.kInternalError, grpc)
  let cq ← call .addCompletionQueue
  let server ← call (.buildAndStart listenAddress)
  if !server || !cq then
    if server then
      -- the destructor of a server shuts it down
      call .shutdownServer
    return (.kInternalError, { grpc with server := false, cq := false })
  call (.startLoop cqThreadCount)
  return (.kSuccess, ⟨true, true, true, true⟩)

/-- `GrpcSyncServer::Shutdown` and `GrpcAsyncServer::Shutdown`. -/
def GrpcServer.shutdown (grpc : GrpcServer) : Process J ω GrpcServer := do
  if !grpc.running then return grpc
  if grpc.server then call .shutdownServer
  if grpc.cq then call .shutdownQueue
  if grpc.loop then call .stopLoop
  return { grpc with running := false, loop := false }

/-- `GrpcSyncServer::Wait` and `GrpcAsyncServer::Wait`, on a server that was shut down. -/
def GrpcServer.wait (grpc : GrpcServer) : Process J ω GrpcServer := do
  if grpc.server then call .waitServer
  return { grpc with server := false, cq := false }

/-- The destructor of a server. -/
def GrpcServer.destroy (grpc : GrpcServer) : Process J ω Unit := do
  let _ ← (← grpc.shutdown).wait

/-- Let go of the server that a pointer holds. -/
def destroyServer : Option GrpcServer → Process J ω Unit
  | none => return
  | some grpc => grpc.destroy

/-! ## The services -/

/-- The services. -/
inductive Service
  | account
  | config
  | accountRisk
  deriving DecidableEq, Repr

namespace Service

/-- The name that a service passes to its base class. -/
def serviceName : Service → String
  | account => "qtrade_account_service"
  | config => "qtrade_config_service"
  | accountRisk => "qtrade_account_risk_service"

/-- The name of its database (`kAccountDatabaseName` and so on). -/
def databaseName : Service → String
  | account => "account"
  | config => "config"
  | accountRisk => "account_risk"

/-- The tables that it creates. -/
def tables : Service → List ITableDdl
  | account => accountTables
  | config => configTables
  | accountRisk => accountRiskTables

/-- The error of a document that cannot be parsed. -/
def parseFailure : Service → ErrorCode
  | account | config => .kNotFound
  | accountRisk => .kInternalError

/-- Whether its base class is `SupportAsyncServiceImpl`. -/
def isAsync : Service → Bool
  | config => true
  | account | accountRisk => false

/-- The statements that create its tables, in order. -/
def sqls (service : Service) : List String := service.tables.flatMap ITableDdl.sqls

end Service

/-- What a service reads off its configuration: where to listen, and the options of its pool. -/
structure BootstrapConfig (ω : Type) where
  grpcAddress : String
  pool : ω

/-- How the services read their configurations
(`ParseQtradeAccountServiceBootstrapConfig` and so on). The JSON library may throw an exception. -/
abbrev Parser (J ω : Type) := Service → J → Except String (Option (BootstrapConfig ω))

/-- The fields of a service (`SupportSyncServiceImpl`, `SupportAsyncServiceImpl`). A pointer that
is null is `none`; of the data access objects and of the service or handler behind gRPC it only
matters whether they are there, and which pools they use. -/
structure ServiceObject where
  configPath : String
  listenAddress : String
  lastError : ErrorCode
  state : SupportServiceState
  /-- `grpc_service_` or `handler_`, with the pools that it was given. -/
  handler : Option DbConnectionPoolManager
  grpcServer : Option GrpcServer
  connectionPoolMgr : Option DbConnectionPoolManager
  /-- Whether `dao_mgr_` is there. -/
  daoMgr : Bool
  deriving DecidableEq, Repr

/-- A service that was constructed. -/
def ServiceObject.new : ServiceObject where
  configPath := ""
  listenAddress := ""
  lastError := .kSuccess
  state := .kNew
  handler := none
  grpcServer := none
  connectionPoolMgr := none
  daoMgr := false

/-- A service that fails with an error. -/
def ServiceObject.fail (object : ServiceObject) (error : ErrorCode) : ServiceObject :=
  { object with state := .kFailed, lastError := error }

/-- `EnsureTableSchema` for one table after the other, until one fails. -/
def ensureTables : List ITableDdl → Process J ω Bool
  | [] => return true
  | table :: tables => do
    let errorCode ← (ensureTableSchema table).translate fun c => call (.database c)
    if errorCode ≠ .kSuccess then return false
    ensureTables tables

/-- `AccountService::Initialize`, `ConfigService::Initialize` and
`AccountRiskService::Initialize`. An exception of the JSON library is not caught. -/
def initializeFrom (parse : Parser J ω) (service : Service) (configPath : String)
    (object : ServiceObject) :
    Process J ω (Except String ErrorCode × ServiceObject) := do
  if object.state ≠ .kNew ∧ object.state ≠ .kTerminated then
    return (.ok .kSystemError, object)
  let object := { object with state := .kInitializing, configPath := configPath }
  match ← call (.loadJsonFile configPath) with
  | none => return (.ok .kNotFound, object.fail .kNotFound)
  | some configNode =>
    match parse service configNode with
    | .error what => return (.error what, object)
    | .ok none => return (.ok service.parseFailure, object.fail service.parseFailure)
    | .ok (some config) =>
      let object := { object with listenAddress := config.grpcAddress }
      let (added, manager) ← DbConnectionPoolManager.addConnectionPool ⟨[]⟩ service.databaseName
        config.pool
      let unconnected := { object with connectionPoolMgr := none }
      if !added then return (.ok .kInternalError, unconnected.fail .kInternalError)
      if !(← manager.isReady) then
        return (.ok .kInternalError, unconnected.fail .kInternalError)
      let unconnected := { unconnected with daoMgr := false }
      if !(← manager.acquire service.databaseName) then
        return (.ok .kInternalError, unconnected.fail .kInternalError)
      if !(← ensureTables service.tables) then
        return (.ok .kInternalError, unconnected.fail .kInternalError)
      return (.ok .kSuccess, { object with
        daoMgr := true
        connectionPoolMgr := some manager
        lastError := .kSuccess })

/-- The first part of `Start`, which both base classes share: the pools, if the service may
start. -/
def checkStart (object : ServiceObject) : Process J ω (Option DbConnectionPoolManager) := do
  if object.state ≠ .kInitializing then return none
  match object.connectionPoolMgr with
  | none => return none
  | some manager =>
    if !(← manager.isReady) then return none
    if object.grpcServer.any GrpcServer.running then return none
    return some manager

/-- `SupportSyncServiceImpl::Start`, with the `CreateGrpcService` of the services. -/
def startSync (object : ServiceObject) : Process J ω (ErrorCode × ServiceObject) := do
  match ← checkStart object with
  | none => return (.kSystemError, object)
  | some manager =>
    if !object.daoMgr then
      return (.kSystemError, { object with handler := none }.fail .kSystemError)
    let object := { object with handler := some manager }
    destroyServer object.grpcServer
    let (rc, grpc) ← GrpcServer.new.startSync object.listenAddress
    if rc ≠ .kSuccess then
      grpc.destroy
      return (rc, { object with grpcServer := none, handler := none }.fail rc)
    return (.kSuccess, { object with
      grpcServer := some grpc
      state := .kReady
      lastError := .kSuccess })

/-- `SupportAsyncServiceImpl::Start`. The handler is given the pools after the server has started,
and it is there before. -/
def startAsync (object : ServiceObject) : Process J ω (ErrorCode × ServiceObject) := do
  match ← checkStart object with
  | none => return (.kSystemError, object)
  | some manager =>
    destroyServer object.grpcServer
    let object := { object with handler := some manager }
    let (rc, grpc) ← GrpcServer.new.startAsync object.listenAddress 1
    if rc ≠ .kSuccess then
      grpc.destroy
      return (rc, { object with grpcServer := none, handler := none }.fail rc)
    call .startHandler
    return (.kSuccess, { object with
      grpcServer := some grpc
      state := .kReady
      lastError := .kSuccess })

/-- `ISupportService::Start`. -/
def start (service : Service) (object : ServiceObject) : Process J ω (ErrorCode × ServiceObject) :=
  if service.isAsync then startAsync object else startSync object

/-- `SupportSyncServiceImpl::Stop` and `SupportAsyncServiceImpl::Stop`. Only the latter shuts its
handler down, and only the former lets go of the handler before a start. -/
def stop (service : Service) (object : ServiceObject) : Process J ω ServiceObject := do
  match object.grpcServer with
  | some grpc =>
    if grpc.running then
      if service.isAsync ∧ object.handler.isSome then call .shutdownHandler
      let grpc ← grpc.shutdown
      return { object with
        handler := none
        grpcServer := some grpc
        connectionPoolMgr := none
        state := .kTerminated }
    else return stopIdle service object
  | none => return stopIdle service object
where
  /-- `Stop` when no server runs. -/
  stopIdle (service : Service) (object : ServiceObject) : ServiceObject :=
    if object.state = .kInitializing then
      { object with
        handler := if service.isAsync then object.handler else none
        connectionPoolMgr := none
        state := .kTerminated }
    else object

/-- Whether `Wait` blocks until another thread stops the service. -/
def ServiceObject.blocksWait (object : ServiceObject) : Bool :=
  object.grpcServer.any fun grpc => grpc.running && grpc.server

/-- `Wait`, when it does not block, or when it does so no longer. -/
def wait (object : ServiceObject) : Process J ω ServiceObject := do
  match object.grpcServer with
  | none => return object
  | some grpc =>
    (← grpc.wait).destroy
    return { object with grpcServer := none }

/-- `GetStatus`. -/
def getStatus (service : Service) (object : ServiceObject) : SupportServiceStatus where
  serviceName := service.serviceName
  configPath := object.configPath
  listenAddress := object.listenAddress
  lastErrorMessage := ""
  lastError := object.lastError
  state := object.state

end Support
