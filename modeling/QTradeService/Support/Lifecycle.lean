import QTradeService.Library.Interleaving
import QTradeService.Support.Service

set_option relaxedAutoImplicit false
set_option autoImplicit false

/-!
# The life cycle of a support service

Whoever holds a service may call it in any order, and whatever the world answers the service goes
through the states of `SupportServiceState` as their documentation says: it is initialized, becomes
ready, is stopped and may be initialized again; and a failure is final. It listens exactly while it
is ready, and then it holds what its handlers need.

`Wait` takes no lock. If it blocks, then what it does once the server was shut down is a step of
its own, which comes at any time after `Stop`; that it may begin in the source before that `Stop`
is over is not modelled. Nothing keeps another `Wait`, or the `Start` of the service that was
initialized again, from using the server meanwhile; there the calls end.

## Main definitions

* `Support.ApiCall`, `Support.session` — calls on a service, one after the other.
* `Support.Races` — the calls that use the server while a blocked `Wait` does.
* `Support.Observed`, `Support.discipline` — what is seen of a service from outside, and what it
  may call when.
* `Support.Lifecycle` — the documented life cycle.
* `Support.Consistent` — how the fields of a service fit its state and what is seen.

## Main results

* `Support.follows_perform` — a call on a service.
* `Support.lifecycle` — any calls, one after the other.
-/

namespace Support

open Dao Database Program Sql

variable {J ω : Type}

/-! ## Calls on a service -/

/-- The calls of `ISupportService`. The return of a `Wait` that has blocked is a step of its own. -/
inductive ApiCall
  | initializeFrom (configPath : String)
  | start
  | stop
  | wait
  | waitReturns
  | getStatus
  deriving DecidableEq, Repr

/-- What they return. `Initialize` may throw an exception, `Wait` may block, and what a call does
that uses the server at the same time as a blocked `Wait` is not defined. -/
inductive Reply
  | code (errorCode : ErrorCode)
  | threw (what : String)
  | done
  | blocks
  | races
  | status (status : SupportServiceStatus)
  deriving DecidableEq, Repr

/-- The outcome of `Initialize`. -/
def Reply.ofOutcome : Except String ErrorCode → Reply
  | .ok errorCode => .code errorCode
  | .error what => .threw what

/-- Whether a `Wait` is blocked after a call. -/
def waitingAfter (waiting : Bool) : ApiCall → Reply → Bool
  | .wait, .blocks => true
  | .waitReturns, .done => false
  | _, _ => waiting

/-- The calls that use the server while a `Wait` is blocked on it: the `Start` that replaces the
server, and another `Wait`. Both threads may destroy it. -/
def Races (waiting : Bool) (state : SupportServiceState) : ApiCall → Prop
  | .start => waiting = true ∧ state = .kInitializing
  | .wait => waiting = true
  | _ => False

instance (waiting : Bool) (state : SupportServiceState) (apiCall : ApiCall) :
    Decidable (Races waiting state apiCall) := by
  cases apiCall <;> unfold Races <;> infer_instance

/-- Make a call on a service, `waiting` telling whether a `Wait` is blocked on its server. The
blocked `Wait` returns once the server was shut down, and lets go of it. -/
def perform (parse : Parser J ω) (service : Service) (waiting : Bool) :
    ApiCall → ServiceObject → Process J ω (Reply × ServiceObject)
  | .initializeFrom configPath, object => do
    let (outcome, object) ← initializeFrom parse service configPath object
    return (.ofOutcome outcome, object)
  | .start, object => do
    let (errorCode, object) ← start service object
    return (.code errorCode, object)
  | .stop, object => return (.done, ← stop service object)
  | .wait, object => do
    if object.blocksWait then return (.blocks, object)
    return (.done, ← wait object)
  | .waitReturns, object => do
    if !waiting || object.blocksWait then return (.blocks, object)
    return (.done, ← wait object)
  | .getStatus, object => return (.status (getStatus service object), object)

/-- Make calls on a service, one after the other, up to the first one that uses the server while a
blocked `Wait` does. -/
def session (parse : Parser J ω) (service : Service) :
    List ApiCall → Bool → ServiceObject → Process J ω (List Reply × ServiceObject)
  | [], _, object => return ([], object)
  | apiCall :: apiCalls, waiting, object => do
    if Races waiting object.state apiCall then return ([.races], object)
    let (reply, object) ← perform parse service waiting apiCall object
    let (replies, object) ← session parse service apiCalls (waitingAfter waiting apiCall reply)
      object
    return (reply :: replies, object)

/-! ## What is seen from outside -/

/-- Execute the text of a statement on the tables of a database. -/
def executeText (catalog : Schema) (sql : String) : Schema :=
  match readDefinition sql with
  | none => catalog
  | some definition => catalog.define definition

/-- What is seen of a service. -/
structure Observed where
  /-- Whether a server listens. -/
  listening : Bool
  /-- The statements that were executed since a pool was opened last. -/
  executed : List String
  /-- The tables of the database. -/
  catalog : Schema

/-- What a service may call when. It starts a server if none listens and it has executed the
statements of all its tables, in order, since it opened its pool; it touches the database only
while no server listens; it shuts its handler down before its server, and its server before its
queue, and waits for a server that was shut down. -/
def discipline (service : Service) : Discipline (Call.Answer (J := J) (ω := ω)) Observed where
  allows l
    | .buildAndStart _ => l.listening = false ∧ l.executed = service.sqls
    | .startHandler | .shutdownHandler | .shutdownServer => l.listening = true
    | .waitServer | .shutdownQueue | .stopLoop => l.listening = false
    | .openPool .. => l.listening = false
    | .database (.execute sql) => l.listening = false ∧ sql ∈ service.sqls
    | .database call => l.listening = false ∧ call = .isConnected
    | _ => True
  next l
    | .openPool .., _ => { l with executed := [] }
    | .database (.execute sql), some _ =>
      { l with executed := l.executed ++ [sql], catalog := executeText l.catalog sql }
    | .buildAndStart _, listening => { l with listening := listening }
    | .shutdownServer, _ => { l with listening := false }
    | _, _ => l

/-! ## The parts -/

section

variable {service : Service} {l : Observed}

/-- Asking whether pools are open. -/
lemma follows_allOpen (names : List String) :
    (allOpen names : Process J ω Bool).Follows (discipline service) l fun _ l' => l' = l := by
  induction names with
  | nil => rfl
  | cons name names ih =>
    refine ⟨trivial, fun isOpen => ?_⟩
    cases isOpen with
    | false => rfl
    | true => exact ih

/-- Asking whether the pools are ready. -/
lemma follows_isReady (manager : DbConnectionPoolManager) :
    (manager.isReady : Process J ω Bool).Follows (discipline service) l fun _ l' => l' = l := by
  unfold DbConnectionPoolManager.isReady
  split_ifs
  · exact rfl
  · exact follows_allOpen manager.pools

variable (service) in
/-- Opening the first pool. -/
lemma follows_addConnectionPool {name : String} (hname : name ≠ "") (options : ω)
    (hl : l.listening = false) :
    (DbConnectionPoolManager.addConnectionPool ⟨[]⟩ name options :
      Process J ω (Bool × DbConnectionPoolManager)).Follows (discipline service) l
      fun result l' =>
        l' = { l with executed := [] } ∧ (result.1 = true → result.2 = ⟨[name]⟩) := by
  unfold DbConnectionPoolManager.addConnectionPool
  rw [if_neg (by simp [hname])]
  refine ⟨hl, fun opened => ?_⟩
  cases opened with
  | false => exact ⟨rfl, nofun⟩
  | true => exact ⟨rfl, fun _ => rfl⟩

/-- Taking a connection. -/
lemma follows_acquire (manager : DbConnectionPoolManager) (name : String) :
    (manager.acquire name : Process J ω Bool).Follows (discipline service) l
      fun _ l' => l' = l := by
  unfold DbConnectionPoolManager.acquire
  by_cases hname : name ∈ manager.pools
  · rw [if_neg (not_not.mpr hname)]
    refine ⟨trivial, fun isOpen => ?_⟩
    cases isOpen with
    | false => rfl
    | true => exact ⟨trivial, fun _ => rfl⟩
  · rw [if_pos hname]
    exact rfl

/-- What is seen after statements were executed: `done`, and all of them if `ok`. -/
def Executed (l : Observed) (sqls : List String) (ok : Bool) (l' : Observed) : Prop :=
  l'.listening = false ∧ ∃ done, l'.executed = l.executed ++ done ∧ (ok = true → done = sqls)

/-- No statement was executed. -/
lemma Executed.none (hl : l.listening = false) (sqls : List String) :
    Executed l sqls false l :=
  ⟨hl, [], (List.append_nil _).symm, nofun⟩

/-- Statements, and more of them. -/
lemma Executed.append {l' l'' : Observed} {sqls sqls' : List String} {ok : Bool}
    (h : Executed l sqls true l') (h' : Executed l' sqls' ok l'') :
    Executed l (sqls ++ sqls') ok l'' := by
  obtain ⟨-, done, hdone, hall⟩ := h
  obtain ⟨hl, done', hdone', hall'⟩ := h'
  refine ⟨hl, done ++ done', ?_, fun hok => ?_⟩
  · rw [hdone', hdone, List.append_assoc]
  · rw [hall rfl, hall' hok]

/-- Statements of which not all were executed. -/
lemma Executed.failed {l' : Observed} {sqls : List String} (h : Executed l sqls false l')
    (sqls' : List String) : Executed l sqls' false l' := by
  obtain ⟨hl, done, hdone, -⟩ := h
  exact ⟨hl, done, hdone, nofun⟩

/-- Executing statements.

**Proof sketch.** By induction on the statements. Each one is executed, or the rest is given up. -/
lemma follows_executeAll {sqls : List String} (hsqls : ∀ sql ∈ sqls, sql ∈ service.sqls)
    (hl : l.listening = false) :
    ((executeAll sqls).translate fun c => call (.database c) : Process J ω Bool).Follows
      (discipline service) l (Executed l sqls) := by
  induction sqls generalizing l with
  | nil => exact ⟨hl, [], (List.append_nil _).symm, fun _ => rfl⟩
  | cons sql sqls ih =>
    refine ⟨⟨hl, hsqls sql (List.mem_cons_self ..)⟩, fun affected => ?_⟩
    cases affected with
    | none => exact .none hl _
    | some affected =>
      have hfirst : Executed l [sql] true { l with
          executed := l.executed ++ [sql]
          catalog := executeText l.catalog sql } := ⟨hl, [sql], rfl, fun _ => rfl⟩
      have hrest := ih (fun sql' hsql' => hsqls sql' (List.mem_cons_of_mem _ hsql')) hfirst.1
      exact hrest.mono fun ok l' h => hfirst.append h

/-- Creating a table.

**Proof sketch.** Without a connection nothing is executed. Otherwise the definitions are, and then
the indexes, up to a failure. -/
lemma follows_ensureTableSchema (schema : ITableDdl)
    (hsqls : ∀ sql ∈ schema.sqls, sql ∈ service.sqls) (hl : l.listening = false) :
    ((ensureTableSchema schema).translate fun c => call (.database c) :
      Process J ω ErrorCode).Follows (discipline service) l fun errorCode l' =>
        Executed l schema.sqls (errorCode = .kSuccess) l' := by
  have hcreate := follows_executeAll (J := J) (ω := ω)
    (fun sql hsql => hsqls sql (List.mem_append_left schema.indexSqls hsql)) hl
  refine ⟨⟨hl, rfl⟩, fun connected => ?_⟩
  cases connected with
  | false => exact .none hl _
  | true =>
    show (translate _ (executeAll schema.createTableSqls >>= _)).Follows _ _ _
    rw [translate_bind]
    refine hcreate.bind fun created l' h => ?_
    cases created with
    | false => exact h.failed _
    | true =>
      have hindex := follows_executeAll (J := J) (ω := ω)
        (fun sql hsql => hsqls sql (List.mem_append_right schema.createTableSqls hsql)) h.1
      show (translate _ (executeAll schema.indexSqls >>= _)).Follows _ _ _
      rw [translate_bind]
      refine hindex.bind fun indexed l'' h' => ?_
      cases indexed with
      | false => exact (h.append h').failed _
      | true => exact h.append h'

/-- Creating tables.

**Proof sketch.** By induction on the tables, up to a failure. -/
lemma follows_ensureTables (tables : List ITableDdl)
    (hsqls : ∀ sql ∈ tables.flatMap ITableDdl.sqls, sql ∈ service.sqls)
    (hl : l.listening = false) :
    (ensureTables tables : Process J ω Bool).Follows (discipline service) l
      (Executed l (tables.flatMap ITableDdl.sqls)) := by
  induction tables generalizing l with
  | nil => exact ⟨hl, [], (List.append_nil _).symm, fun _ => rfl⟩
  | cons table tables ih =>
    have htable := follows_ensureTableSchema (J := J) (ω := ω) table
      (fun sql hsql => hsqls sql (by simp [hsql])) hl
    refine htable.bind fun errorCode l' h => ?_
    by_cases hcode : errorCode = .kSuccess
    · rw [if_neg (not_not.mpr hcode)]
      rw [decide_eq_true hcode] at h
      have hrest := ih (fun sql hsql => hsqls sql (by simp [hsql])) h.1
      exact hrest.mono fun ok l'' h' => h.append h'
    · rw [if_pos hcode]
      rw [decide_eq_false hcode] at h
      exact h.failed _

/-! ## Servers -/

/-- A server that runs. -/
def runningServer (service : Service) : GrpcServer := ⟨true, true, service.isAsync, service.isAsync⟩

/-- A server that listens no more is what it was before. -/
lemma Observed.eq_of_not_listening (hl : l.listening = false) :
    { l with listening := false } = l := by
  cases l
  cases hl
  rfl

/-- The ways in which the start of a server ends. -/
def Started (service : Service) (l : Observed) (result : ErrorCode × GrpcServer) (l' : Observed) :
    Prop :=
  result = (.kSuccess, runningServer service) ∧ l' = { l with listening := true } ∨
    result.1 ≠ .kSuccess ∧ result.2.running = false ∧ l' = l

/-- Starting a synchronous server. -/
lemma follows_grpcStartSync (hsync : service.isAsync = false) (hl : l.listening = false)
    (hexecuted : l.executed = service.sqls) (listenAddress : String) :
    (GrpcServer.new.startSync listenAddress : Process J ω (ErrorCode × GrpcServer)).Follows
      (discipline service) l (Started service l) := by
  unfold GrpcServer.startSync
  rw [if_neg (by decide)]
  split_ifs
  · exact .inr ⟨by decide, rfl, rfl⟩
  · refine ⟨⟨hl, hexecuted⟩, fun listening => ?_⟩
    cases listening with
    | false => exact .inr ⟨by decide, rfl, Observed.eq_of_not_listening hl⟩
    | true => exact .inl ⟨by rw [runningServer, hsync]; rfl, rfl⟩

/-- Starting an asynchronous server.

**Proof sketch.** Along the program. The server listens only if all statements have been executed,
and a queue that is missing shuts it down again. -/
lemma follows_grpcStartAsync (hasync : service.isAsync = true) (hl : l.listening = false)
    (hexecuted : l.executed = service.sqls) (listenAddress : String) (cqThreadCount : ℕ) :
    (GrpcServer.new.startAsync listenAddress cqThreadCount :
      Process J ω (ErrorCode × GrpcServer)).Follows (discipline service) l (Started service l) := by
  unfold GrpcServer.startAsync
  rw [if_neg (by decide)]
  split_ifs
  · exact .inr ⟨by decide, rfl, rfl⟩
  · refine ⟨trivial, fun cq => ⟨⟨hl, hexecuted⟩, fun listening => ?_⟩⟩
    cases listening with
    | false => exact .inr ⟨by decide, rfl, Observed.eq_of_not_listening hl⟩
    | true =>
      cases cq with
      | false => exact ⟨rfl, fun _ => .inr ⟨by decide, rfl, Observed.eq_of_not_listening hl⟩⟩
      | true => exact ⟨trivial, fun _ => .inl ⟨by rw [runningServer, hasync], rfl⟩⟩

/-- Shutting a server down. -/
lemma follows_shutdown (hl : l.listening = true) :
    ((runningServer service).shutdown : Process J ω GrpcServer).Follows (discipline service) l
      fun grpc l' => grpc.running = false ∧ l' = { l with listening := false } := by
  unfold GrpcServer.shutdown runningServer
  cases service.isAsync with
  | false => exact ⟨hl, fun _ => ⟨rfl, rfl⟩⟩
  | true => exact ⟨hl, fun _ => ⟨rfl, fun _ => ⟨rfl, fun _ => ⟨rfl, rfl⟩⟩⟩⟩

/-- Waiting for a server that was shut down. -/
lemma follows_grpcWait (grpc : GrpcServer) (hl : l.listening = false) :
    (grpc.wait : Process J ω GrpcServer).Follows (discipline service) l
      fun grpc' l' => grpc'.running = grpc.running ∧ l' = l := by
  unfold GrpcServer.wait
  split_ifs
  · exact ⟨hl, fun _ => ⟨rfl, rfl⟩⟩
  · exact ⟨rfl, rfl⟩

/-- Destroying a server that does not run. -/
lemma follows_destroy {grpc : GrpcServer} (hgrpc : grpc.running = false)
    (hl : l.listening = false) :
    (grpc.destroy : Process J ω Unit).Follows (discipline service) l fun _ l' => l' = l := by
  unfold GrpcServer.destroy GrpcServer.shutdown
  rw [if_pos (by rw [hgrpc]; rfl)]
  exact (follows_grpcWait grpc hl).bind fun _ _ h => h.2

/-- Letting go of a server that does not run. -/
lemma follows_destroyServer {grpc : Option GrpcServer}
    (hgrpc : grpc.any GrpcServer.running = false) (hl : l.listening = false) :
    (destroyServer grpc : Process J ω Unit).Follows (discipline service) l
      fun _ l' => l' = l := by
  cases grpc with
  | none => exact rfl
  | some grpc => exact follows_destroy hgrpc hl

end

/-! ## The life cycle -/

/-- The documented life cycle: which calls may lead from a state to which other state, and with
what answer, while a `Wait` is blocked or not. -/
inductive Lifecycle (waiting : Bool) :
    SupportServiceState → ApiCall → Reply → SupportServiceState → Prop
  /-- A new or terminated service can be initialized. -/
  | initialized {state : SupportServiceState} {configPath : String}
      (hstate : state = .kNew ∨ state = .kTerminated) :
      Lifecycle waiting state (.initializeFrom configPath) (.code .kSuccess) .kInitializing
  /-- This may fail. -/
  | initializeFailed {state : SupportServiceState} {configPath : String} {error : ErrorCode}
      (hstate : state = .kNew ∨ state = .kTerminated) (herror : error ≠ .kSuccess) :
      Lifecycle waiting state (.initializeFrom configPath) (.code error) .kFailed
  /-- An exception leaves the service as it is being initialized. -/
  | initializeThrew {state : SupportServiceState} {configPath what : String}
      (hstate : state = .kNew ∨ state = .kTerminated) :
      Lifecycle waiting state (.initializeFrom configPath) (.threw what) .kInitializing
  /-- No other service is initialized. -/
  | initializeRefused {state : SupportServiceState} {configPath : String}
      (hstate : ¬(state = .kNew ∨ state = .kTerminated)) :
      Lifecycle waiting state (.initializeFrom configPath) (.code .kSystemError) state
  /-- An initialized service can be started. -/
  | started : Lifecycle waiting .kInitializing .start (.code .kSuccess) .kReady
  /-- This may fail. -/
  | startFailed {error : ErrorCode} (herror : error ≠ .kSuccess) :
      Lifecycle waiting .kInitializing .start (.code error) .kFailed
  /-- A service that was not initialized, or whose pools are closed, is not started. -/
  | startRefused {state : SupportServiceState} :
      Lifecycle waiting state .start (.code .kSystemError) state
  /-- An initialized or ready service is stopped. -/
  | stopped {state : SupportServiceState} (hstate : state = .kInitializing ∨ state = .kReady) :
      Lifecycle waiting state .stop .done .kTerminated
  /-- For any other service `Stop` does nothing. -/
  | stopIgnored {state : SupportServiceState}
      (hstate : ¬(state = .kInitializing ∨ state = .kReady)) :
      Lifecycle waiting state .stop .done state
  /-- `Wait` blocks while the service is ready. -/
  | blocked : Lifecycle waiting .kReady .wait .blocks .kReady
  /-- Otherwise it returns. -/
  | waited {state : SupportServiceState} (hstate : state ≠ .kReady) :
      Lifecycle waiting state .wait .done state
  /-- A blocked `Wait` returns when the service is ready no more. -/
  | returned {state : SupportServiceState} (hwaiting : waiting = true) (hstate : state ≠ .kReady) :
      Lifecycle waiting state .waitReturns .done state
  /-- Until then no `Wait` returns. -/
  | stillBlocked {state : SupportServiceState} (hblocked : waiting = false ∨ state = .kReady) :
      Lifecycle waiting state .waitReturns .blocks state
  /-- The status shows the state, and an error if and only if the service has failed. -/
  | shown {state : SupportServiceState} {status : SupportServiceStatus}
      (hstate : status.state = state) (herror : status.lastError ≠ .kSuccess ↔ state = .kFailed) :
      Lifecycle waiting state .getStatus (.status status) state

/-- How the fields of a service fit its state and what is seen of it. -/
structure Consistent (service : Service) (object : ServiceObject) (l : Observed) : Prop where
  /-- `kStopping` is only passed through. -/
  notStopping : object.state ≠ .kStopping
  /-- A server listens exactly while the service is ready. -/
  listening : l.listening = true ↔ object.state = .kReady
  running : ∀ grpc ∈ object.grpcServer, grpc.running = true → object.state = .kReady
  server : object.state = .kReady → object.grpcServer = some (runningServer service)
  /-- There is a handler exactly while the service is ready, and it uses its pools. -/
  handler : object.handler = if object.state = .kReady then object.connectionPoolMgr else none
  /-- An initialized service that has pools has created its tables. -/
  pools : object.state = .kInitializing ∨ object.state = .kReady →
    ∀ manager ∈ object.connectionPoolMgr, manager = ⟨[service.databaseName]⟩ ∧
      object.daoMgr = true ∧ l.executed = service.sqls
  connected : object.state = .kReady → object.connectionPoolMgr.isSome
  /-- A new or terminated service has released its pools. -/
  released : object.state = .kNew ∨ object.state = .kTerminated → object.connectionPoolMgr = none
  /-- The last error is an error exactly if the service has failed. -/
  error : object.lastError ≠ .kSuccess ↔ object.state = .kFailed

section

variable {parse : Parser J ω} {service : Service} {waiting : Bool}
  {object : ServiceObject} {l : Observed}

/-- A service that is not ready has no handler. -/
lemma Consistent.handler_eq_none (h : Consistent service object l)
    (hstate : object.state ≠ .kReady) : object.handler = none := by
  rw [h.handler, if_neg hstate]

/-- A service that is not ready does not listen. -/
lemma Consistent.not_listening (h : Consistent service object l) (hstate : object.state ≠ .kReady) :
    l.listening = false :=
  Bool.eq_false_iff.mpr (mt h.listening.mp hstate)

/-- A service that is not ready has no running server. -/
lemma Consistent.not_running (h : Consistent service object l) (hstate : object.state ≠ .kReady) :
    object.grpcServer.any GrpcServer.running = false := by
  cases hserver : object.grpcServer with
  | none => rfl
  | some grpc => exact Bool.eq_false_iff.mpr (mt (h.running grpc hserver) hstate)

/-- A service that has not failed has no error. -/
lemma Consistent.lastError (h : Consistent service object l) (hstate : object.state ≠ .kFailed) :
    object.lastError = .kSuccess :=
  not_not.mp (mt h.error.mp hstate)

/-- A service that can be initialized is not ready and has not failed. -/
lemma ne_of_initializable (hstate : object.state = .kNew ∨ object.state = .kTerminated) :
    object.state ≠ .kReady ∧ object.state ≠ .kFailed := by
  rcases hstate with hstate | hstate <;> rw [hstate] <;> decide

/-- A server that is there does not run if none does. -/
lemma not_running_of_mem {server : Option GrpcServer}
    (h : server.any GrpcServer.running = false) {grpc : GrpcServer} (hgrpc : grpc ∈ server) :
    ¬grpc.running = true := by
  obtain rfl := Option.mem_def.mp hgrpc
  exact ne_true_of_eq_false h

/-- A service that has just failed. -/
lemma consistent_fail {error : ErrorCode} (hhandler : object.handler = none)
    (hserver : object.grpcServer.any GrpcServer.running = false) (hl : l.listening = false)
    (herror : error ≠ .kSuccess) : Consistent service (object.fail error) l where
  notStopping := nofun
  listening := by simp [hl, ServiceObject.fail]
  running _ hgrpc hrunning := absurd hrunning (not_running_of_mem hserver hgrpc)
  server := nofun
  handler := by simpa [ServiceObject.fail] using hhandler
  pools := by simp [ServiceObject.fail]
  connected := nofun
  released := by simp [ServiceObject.fail]
  error := by simpa [ServiceObject.fail] using herror

/-- A service whose initialization threw an exception. -/
lemma Consistent.threw (h : Consistent service object l)
    (hstate : object.state = .kNew ∨ object.state = .kTerminated) (configPath : String) :
    Consistent service { object with state := .kInitializing, configPath := configPath } l := by
  obtain ⟨hnot, hfailed⟩ := ne_of_initializable hstate
  refine ⟨nofun, ?_, fun grpc hgrpc hrunning => ?_, nofun, ?_, ?_, nofun, by simp, ?_⟩
  · simp [h.not_listening hnot]
  · exact absurd (h.running grpc hgrpc hrunning) hnot
  · simpa using h.handler_eq_none hnot
  · simp [h.released hstate]
  · simp [h.lastError hfailed]

variable (object) in
/-- A service that has just been initialized. -/
lemma consistent_initialized (hhandler : object.handler = none)
    (hserver : object.grpcServer.any GrpcServer.running = false) (hl : l.listening = false)
    (hexecuted : l.executed = service.sqls) :
    Consistent service
      { object with
        state := .kInitializing
        connectionPoolMgr := some ⟨[service.databaseName]⟩
        daoMgr := true
        lastError := .kSuccess } l where
  notStopping := nofun
  listening := by simp [hl]
  running _ hgrpc hrunning := absurd hrunning (not_running_of_mem hserver hgrpc)
  server := nofun
  handler := by simpa using hhandler
  pools := by simp [hexecuted]
  connected := nofun
  released := by simp
  error := by simp

/-- What a call leads to. -/
def Leads (service : Service) (waiting : Bool) (object : ServiceObject) (apiCall : ApiCall)
    (result : Reply × ServiceObject) (l : Observed) : Prop :=
  Lifecycle waiting object.state apiCall result.1 result.2.state ∧ Consistent service result.2 l

/-- The names of the databases are not empty. -/
lemma databaseName_ne (service : Service) : service.databaseName ≠ "" := by
  cases service <;> decide

/-- A document that cannot be parsed is an error. -/
lemma parseFailure_ne (service : Service) : service.parseFailure ≠ .kSuccess := by
  cases service <;> decide

/-- The initialization of a service fails. -/
lemma leads_initializeFailed {object' : ServiceObject} {configPath : String} {error : ErrorCode}
    (hstate : object.state = .kNew ∨ object.state = .kTerminated)
    (hhandler : object'.handler = none)
    (hserver : object'.grpcServer.any GrpcServer.running = false) (hl : l.listening = false)
    (herror : error ≠ .kSuccess) :
    Leads service waiting object (.initializeFrom configPath) (.code error, object'.fail error) l :=
  ⟨.initializeFailed hstate herror, consistent_fail hhandler hserver hl herror⟩

/-- `Initialize`.

**Proof sketch.** Along the program. Every failure ends in the state of a failed service, with
nothing listening; only after all statements have been executed is the service initializing. -/
lemma follows_initializeFrom (h : Consistent service object l) (configPath : String) :
    (initializeFrom parse service configPath object).Follows (discipline service) l
      fun result l' => Leads service waiting object (.initializeFrom configPath)
        (.ofOutcome result.1, result.2) l' := by
  unfold initializeFrom
  by_cases hstate : object.state = .kNew ∨ object.state = .kTerminated
  · obtain ⟨hnot, -⟩ := ne_of_initializable hstate
    have hl := h.not_listening hnot
    have hserver := h.not_running hnot
    have hhandler := h.handler_eq_none hnot
    rw [if_neg (by tauto)]
    refine ⟨trivial, fun configNode => ?_⟩
    cases configNode with
    | none =>
      exact leads_initializeFailed hstate hhandler hserver hl (by decide)
    | some configNode =>
      simp only [Program.bind]
      rcases parse service configNode with what | _ | config
      · exact ⟨.initializeThrew hstate, h.threw hstate configPath⟩
      · exact leads_initializeFailed hstate hhandler hserver hl (parseFailure_ne service)
      · have hadd := follows_addConnectionPool (J := J) service (databaseName_ne service)
          config.pool hl
        refine hadd.bind fun added l₁ hadded => ?_
        obtain ⟨added, manager⟩ := added
        obtain ⟨rfl, hmanager⟩ := hadded
        cases added with
        | false =>
          exact leads_initializeFailed hstate hhandler hserver hl (by decide)
        | true =>
          obtain rfl := hmanager rfl
          refine (follows_isReady _).bind fun ready l₂ hready => ?_
          subst hready
          cases ready with
          | false =>
            exact leads_initializeFailed hstate hhandler hserver hl (by decide)
          | true =>
            refine (follows_acquire _ _).bind fun leased l₃ hleased => ?_
            subst hleased
            cases leased with
            | false =>
              exact leads_initializeFailed hstate hhandler hserver hl (by decide)
            | true =>
              have hcreate := follows_ensureTables (J := J) (ω := ω)
                (l := { l with executed := [] }) service.tables (fun _ h => h) hl
              refine hcreate.bind fun created l₄ hcreated => ?_
              obtain ⟨hl', done, hdone, hall⟩ := hcreated
              cases created with
              | false =>
                exact leads_initializeFailed hstate hhandler hserver hl' (by decide)
              | true =>
                obtain rfl := hall rfl
                exact ⟨.initialized hstate, consistent_initialized
                  { object with configPath := configPath, listenAddress := config.grpcAddress }
                  hhandler hserver hl' hdone⟩
  · rw [if_pos (by tauto)]
    exact ⟨.initializeRefused hstate, h⟩

/-! ### `Start` -/

/-- The part of `Start` that the base classes share.

**Proof sketch.** Along the program: the state, the pools, and whether they are ready. -/
lemma follows_checkStart (h : Consistent service object l) :
    (checkStart object : Process J ω (Option DbConnectionPoolManager)).Follows
      (discipline service) l fun result l' => l' = l ∧ ∀ manager ∈ result,
        object.state = .kInitializing ∧ object.connectionPoolMgr = some manager := by
  unfold checkStart
  by_cases hstate : object.state = .kInitializing
  · rw [if_neg (not_not.mpr hstate)]
    cases object.connectionPoolMgr with
    | none => exact ⟨rfl, nofun⟩
    | some manager =>
      refine (follows_isReady manager).bind fun ready l' hl' => ?_
      subst hl'
      rw [h.not_running (by rw [hstate]; decide)]
      cases ready with
      | false => exact ⟨rfl, nofun⟩
      | true => exact ⟨rfl, fun _ hmanager => ⟨hstate, hmanager⟩⟩
  · rw [if_pos hstate]
    exact ⟨rfl, nofun⟩

/-- A service that has just been started. -/
lemma consistent_started (h : Consistent service object l)
    (hstate : object.state = .kInitializing) {manager : DbConnectionPoolManager}
    (hpools : object.connectionPoolMgr = some manager) :
    Consistent service
      { object with
        handler := some manager
        grpcServer := some (runningServer service)
        state := .kReady
        lastError := .kSuccess } { l with listening := true } where
  notStopping := nofun
  listening := by simp
  running := by simp
  server := by simp
  handler := by simp [hpools]
  pools := fun _ => h.pools (.inl hstate)
  connected _ := by simp [hpools]
  released := by simp
  error := by simp

/-- The start of a service succeeds. -/
lemma leads_started (h : Consistent service object l) (hstate : object.state = .kInitializing)
    {manager : DbConnectionPoolManager} (hpools : object.connectionPoolMgr = some manager) :
    Leads service waiting object .start (.code .kSuccess,
      { object with
        handler := some manager
        grpcServer := some (runningServer service)
        state := .kReady
        lastError := .kSuccess }) { l with listening := true } := by
  refine ⟨?_, consistent_started h hstate hpools⟩
  rw [hstate]
  exact .started

/-- The start of a service fails. -/
lemma leads_startFailed (hstate : object.state = .kInitializing) (hl : l.listening = false)
    {error : ErrorCode} (herror : error ≠ .kSuccess) :
    Leads service waiting object .start (.code error,
      { object with grpcServer := none, handler := none }.fail error) l := by
  refine ⟨?_, consistent_fail rfl rfl hl herror⟩
  rw [hstate]
  exact .startFailed herror

/-- `Start` of a synchronous service.

**Proof sketch.** The check makes sure that all statements have been executed. Then the server
listens, or it is destroyed with nothing listening. -/
lemma follows_startSync (h : Consistent service object l) (hsync : service.isAsync = false) :
    (startSync object : Process J ω (ErrorCode × ServiceObject)).Follows (discipline service) l
      fun result l' => Leads service waiting object .start (.code result.1, result.2) l' := by
  refine (follows_checkStart h).bind fun result l' hresult => ?_
  obtain ⟨rfl, hmanager⟩ := hresult
  cases result with
  | none => exact ⟨.startRefused, h⟩
  | some manager =>
    obtain ⟨hstate, hpools⟩ := hmanager manager rfl
    have hnot : object.state ≠ .kReady := by rw [hstate]; decide
    obtain ⟨-, hdao, hexecuted⟩ := h.pools (.inl hstate) manager hpools
    show Follows (ite _ _ _) _ _ _
    rw [if_neg (by simp [hdao])]
    refine (follows_destroyServer (h.not_running hnot) (h.not_listening hnot)).bind
      fun _ l₁ hl₁ => ?_
    subst hl₁
    refine (follows_grpcStartSync hsync (h.not_listening hnot) hexecuted _).bind
      fun result l₂ hresult => ?_
    rcases hresult with ⟨rfl, rfl⟩ | ⟨hrc, hgrpc, rfl⟩
    · exact leads_started h hstate hpools
    · show Follows (ite _ _ _) _ _ _
      rw [if_pos hrc]
      refine (follows_destroy hgrpc (h.not_listening hnot)).bind fun _ l₃ hl₃ => ?_
      subst hl₃
      exact leads_startFailed hstate (h.not_listening hnot) hrc

/-- `Start` of an asynchronous service.

**Proof sketch.** As for `follows_startSync`. -/
lemma follows_startAsync (h : Consistent service object l) (hasync : service.isAsync = true) :
    (startAsync object : Process J ω (ErrorCode × ServiceObject)).Follows (discipline service) l
      fun result l' => Leads service waiting object .start (.code result.1, result.2) l' := by
  refine (follows_checkStart h).bind fun result l' hresult => ?_
  obtain ⟨rfl, hmanager⟩ := hresult
  cases result with
  | none => exact ⟨.startRefused, h⟩
  | some manager =>
    obtain ⟨hstate, hpools⟩ := hmanager manager rfl
    have hnot : object.state ≠ .kReady := by rw [hstate]; decide
    obtain ⟨-, -, hexecuted⟩ := h.pools (.inl hstate) manager hpools
    refine (follows_destroyServer (h.not_running hnot) (h.not_listening hnot)).bind
      fun _ l₁ hl₁ => ?_
    subst hl₁
    refine (follows_grpcStartAsync hasync (h.not_listening hnot) hexecuted _ _).bind
      fun result l₂ hresult => ?_
    rcases hresult with ⟨rfl, rfl⟩ | ⟨hrc, hgrpc, rfl⟩
    · exact ⟨rfl, fun _ => leads_started h hstate hpools⟩
    · show Follows (ite _ _ _) _ _ _
      rw [if_pos hrc]
      refine (follows_destroy hgrpc (h.not_listening hnot)).bind fun _ l₃ hl₃ => ?_
      subst hl₃
      exact leads_startFailed hstate (h.not_listening hnot) hrc

/-- `Start`. -/
lemma follows_start (h : Consistent service object l) :
    (start service object : Process J ω (ErrorCode × ServiceObject)).Follows (discipline service) l
      fun result l' => Leads service waiting object .start (.code result.1, result.2) l' := by
  unfold start
  split_ifs with hasync
  · exact follows_startAsync h hasync
  · exact follows_startSync h (Bool.eq_false_iff.mpr hasync)

/-! ### `Stop` and `Wait` -/

/-- A service that has just been stopped. -/
lemma consistent_stopped {server : Option GrpcServer}
    (hserver : server.any GrpcServer.running = false) {l' : Observed} (hl : l'.listening = false)
    (herror : object.lastError = .kSuccess) :
    Consistent service
      { object with
        handler := none
        grpcServer := server
        connectionPoolMgr := none
        state := .kTerminated } l' where
  notStopping := nofun
  listening := by simp [hl]
  running _ hgrpc hrunning := absurd hrunning (not_running_of_mem hserver hgrpc)
  server := nofun
  handler := by simp
  pools := by simp
  connected := nofun
  released := by simp
  error := by simp [herror]

/-- `Stop`, when no server runs. -/
lemma leads_stopIdle (h : Consistent service object l) (hnot : object.state ≠ .kReady) :
    Leads service waiting object .stop (.done, stop.stopIdle service object) l := by
  unfold stop.stopIdle
  by_cases hstate : object.state = .kInitializing
  · rw [if_pos hstate, h.handler_eq_none hnot, ite_self]
    exact ⟨.stopped (.inl hstate), consistent_stopped (h.not_running hnot)
      (h.not_listening hnot) (h.lastError (by rw [hstate]; decide))⟩
  · rw [if_neg hstate]
    exact ⟨.stopIgnored (by tauto), h⟩

/-- `Stop`.

**Proof sketch.** A ready service has a server that listens, which is shut down. Any other one has
none that runs, and only its parts are reset. -/
lemma follows_stop (h : Consistent service object l) :
    (stop service object : Process J ω ServiceObject).Follows (discipline service) l
      fun result l' => Leads service waiting object .stop (.done, result) l' := by
  unfold stop
  by_cases hstate : object.state = .kReady
  · have hl := h.listening.mpr hstate
    have herror := h.lastError (by rw [hstate]; decide)
    have hshutdown : ((runningServer service).shutdown >>= fun grpc => Pure.pure { object with
        handler := none
        grpcServer := some grpc
        connectionPoolMgr := none
        state := .kTerminated } : Process J ω ServiceObject).Follows (discipline service) l
        fun result l' => Leads service waiting object .stop (.done, result) l' := by
      refine (follows_shutdown hl).bind fun grpc l' hgrpc => ?_
      obtain ⟨hgrpc, rfl⟩ := hgrpc
      have hserver : (some grpc).any GrpcServer.running = false := hgrpc
      exact ⟨.stopped (.inr hstate), consistent_stopped hserver rfl herror⟩
    rw [h.server hstate]
    show Follows (ite (true = true) _ _) _ _ _
    rw [if_pos rfl]
    dsimp only
    split_ifs
    · exact ⟨hl, fun _ => hshutdown⟩
    · exact hshutdown
  · cases hserver : object.grpcServer with
    | none => exact leads_stopIdle h hstate
    | some grpc =>
      have hgrpc : grpc.running = false := by simpa [hserver] using h.not_running hstate
      show Follows (ite _ _ _) _ _ _
      rw [if_neg (ne_true_of_eq_false hgrpc)]
      exact leads_stopIdle h hstate

/-- A service that is not ready does not need its server. -/
lemma Consistent.withoutServer (h : Consistent service object l) (hnot : object.state ≠ .kReady) :
    Consistent service { object with grpcServer := none } l where
  notStopping := h.notStopping
  listening := h.listening
  running := nofun
  server hstate := absurd hstate hnot
  handler := h.handler
  pools := h.pools
  connected := h.connected
  released := h.released
  error := h.error

/-- `Wait`, when it does not block.

**Proof sketch.** A service that is not ready has no server that runs, so that nothing blocks, and
its server is reset. -/
lemma follows_wait (h : Consistent service object l) (hnot : object.state ≠ .kReady) :
    (wait object : Process J ω ServiceObject).Follows (discipline service) l
      fun result l' => result.state = object.state ∧ Consistent service result l' := by
  unfold wait
  cases hserver : object.grpcServer with
  | none => exact ⟨rfl, h⟩
  | some grpc =>
    have hl := h.not_listening hnot
    have hrunning := h.not_running hnot
    rw [hserver] at hrunning
    refine (follows_grpcWait grpc hl).bind fun grpc' l₁ hgrpc' => ?_
    obtain ⟨hgrpc', rfl⟩ := hgrpc'
    refine (follows_destroy (hgrpc'.trans hrunning) hl).bind fun _ l₂ hl₂ => ?_
    subst hl₂
    exact ⟨rfl, h.withoutServer hnot⟩

/-! ## Calls in a row -/

/-- `Wait` blocks exactly while the service is ready. -/
lemma Consistent.blocksWait (h : Consistent service object l) :
    object.blocksWait = true ↔ object.state = .kReady := by
  constructor
  · intro hblocks
    obtain ⟨grpc, hgrpc, hrunning⟩ := (Option.any_eq_true ..).mp hblocks
    exact h.running grpc hgrpc (Bool.and_eq_true_iff.mp hrunning).1
  · intro hstate
    rw [ServiceObject.blocksWait, h.server hstate]
    rfl

/-- `GetStatus`. -/
lemma leads_getStatus (h : Consistent service object l) :
    Leads service waiting object .getStatus (.status (getStatus service object), object) l :=
  ⟨.shown rfl h.error, h⟩

/-- `Wait`. -/
lemma follows_performWait (h : Consistent service object l) :
    (perform parse service waiting .wait object).Follows (discipline service) l
      (Leads service waiting object .wait) := by
  show Follows (ite _ _ _) _ _ _
  by_cases hstate : object.state = .kReady
  · rw [if_pos (h.blocksWait.mpr hstate)]
    refine ⟨?_, h⟩
    rw [hstate]
    exact .blocked
  · rw [if_neg (mt h.blocksWait.mp hstate)]
    refine (follows_wait h hstate).bind fun object' l' hwait => ⟨?_, hwait.2⟩
    rw [hwait.1]
    exact .waited hstate

/-- The return of a `Wait` that has blocked.

**Proof sketch.** By whether a `Wait` is pending and the service is still ready. If it is not, what
is left is a `Wait` that does not block. -/
lemma follows_performWaitReturns (h : Consistent service object l) :
    (perform parse service waiting .waitReturns object).Follows (discipline service) l
      (Leads service waiting object .waitReturns) := by
  have hblocks : (!waiting || object.blocksWait) = true ↔
      waiting = false ∨ object.state = .kReady := by
    rw [Bool.or_eq_true, Bool.not_eq_true', h.blocksWait]
  show Follows (ite _ _ _) _ _ _
  by_cases hblocked : waiting = false ∨ object.state = .kReady
  · rw [if_pos (hblocks.mpr hblocked)]
    exact ⟨.stillBlocked hblocked, h⟩
  · rw [if_neg (mt hblocks.mp hblocked)]
    obtain ⟨hwaiting, hstate⟩ := not_or.mp hblocked
    refine (follows_wait h hstate).bind fun object' l' hwait => ⟨?_, hwait.2⟩
    rw [hwait.1]
    exact .returned (Bool.eq_true_of_not_eq_false hwaiting) hstate

/-- A call on a service. -/
lemma follows_perform (h : Consistent service object l) (apiCall : ApiCall) :
    (perform parse service waiting apiCall object).Follows (discipline service) l
      (Leads service waiting object apiCall) := by
  cases apiCall with
  | initializeFrom configPath => exact (follows_initializeFrom h configPath).bind fun _ _ h => h
  | start => exact (follows_start h).bind fun _ _ h => h
  | stop => exact (follows_stop h).bind fun _ _ h => h
  | wait => exact follows_performWait h
  | waitReturns => exact follows_performWaitReturns h
  | getStatus => exact leads_getStatus h

end

/-- Calls in a row along the life cycle, with their replies, up to the first one that uses the
server while a blocked `Wait` does. -/
inductive Lived : Bool → SupportServiceState → List ApiCall → List Reply →
    SupportServiceState → Prop
  | nil {waiting : Bool} {state : SupportServiceState} : Lived waiting state [] [] state
  | races {waiting : Bool} {state : SupportServiceState} {apiCall : ApiCall}
      {apiCalls : List ApiCall} (hraces : Races waiting state apiCall) :
      Lived waiting state (apiCall :: apiCalls) [.races] state
  | cons {waiting : Bool} {state state' state'' : SupportServiceState} {apiCall : ApiCall}
      {reply : Reply} {apiCalls : List ApiCall} {replies : List Reply}
      (hraces : ¬Races waiting state apiCall)
      (first : Lifecycle waiting state apiCall reply state')
      (rest : Lived (waitingAfter waiting apiCall reply) state' apiCalls replies state'') :
      Lived waiting state (apiCall :: apiCalls) (reply :: replies) state''

/-- Calls on a service that is consistent.

**Proof sketch.** By induction on the calls. The run ends where a call would race with a pending
`Wait`, and any other call leads to a consistent service. -/
lemma follows_session {parse : Parser J ω} {service : Service} {waiting : Bool}
    {object : ServiceObject} {l : Observed} (apiCalls : List ApiCall)
    (h : Consistent service object l) :
    (session parse service apiCalls waiting object).Follows (discipline service) l
      fun result l' => Lived waiting object.state apiCalls result.1 result.2.state ∧
        Consistent service result.2 l' := by
  induction apiCalls generalizing waiting object l with
  | nil => exact ⟨.nil, h⟩
  | cons apiCall apiCalls ih =>
    show Follows (ite _ _ _) _ _ _
    by_cases hraces : Races waiting object.state apiCall
    · rw [if_pos hraces]
      exact ⟨.races hraces, h⟩
    · rw [if_neg hraces]
      refine (follows_perform h apiCall).bind fun result l₁ hfirst => ?_
      obtain ⟨hfirst, h₁⟩ := hfirst
      refine (ih h₁).bind fun results l₂ hrest => ?_
      exact ⟨.cons hraces hfirst hrest.1, hrest.2⟩

/-- A service that was constructed is consistent. -/
lemma consistent_new (service : Service) (catalog : Schema) :
    Consistent service .new ⟨false, [], catalog⟩ where
  notStopping := nofun
  listening := by simp [ServiceObject.new]
  running := nofun
  server := nofun
  handler := rfl
  pools := by simp [ServiceObject.new]
  connected := nofun
  released := fun _ => rfl
  error := by decide

/-- Whoever calls a service in whatever order, and whatever the world answers: up to the first call
that uses the server while a blocked `Wait` does, the service goes through the documented life
cycle, keeps to its discipline and listens exactly while it is ready. -/
theorem lifecycle (parse : Parser J ω) (service : Service)
    (apiCalls : List ApiCall) (catalog : Schema) :
    (session parse service apiCalls false .new).Follows (discipline service) ⟨false, [], catalog⟩
      fun result l =>
        Lived false .kNew apiCalls result.1 result.2.state ∧ Consistent service result.2 l :=
  follows_session apiCalls (consistent_new service catalog)

end Support
