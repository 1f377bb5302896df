import Mathlib.Data.Int.Notation
import Mathlib.Logic.Basic
import QTradeService.Grpc.Status

set_option relaxedAutoImplicit false
set_option autoImplicit false

/-!
# The pipeline of unary handlers

`GrpcHandlerInterface::Run`: a fixed sequence of hooks that a handler fills in, with a rollback
on some failures. A hook works on the server data of the call, may have effects in a monad, and
either answers with a `Result` or throws a `std::exception`; what it did to the server data
before it threw remains.

## Main definitions

* `ErrorCode`, `Result`, `Grpc.toGrpcStatus` — the results of the services, and their statuses.
* `Grpc.GrpcHandlerInterface`, `Grpc.GrpcHandlerInterface.run` — the hooks and the pipeline.
* `Grpc.GrpcHandlerInterface.plain` — the handlers that have nothing to check before or after
  their business, nothing to roll back and nobody to notify.

## Main results

* `Grpc.GrpcHandlerInterface.run_plain` — the pipeline of such a handler.
-/

/-- The `ErrorCode` values that the services use. -/
inductive ErrorCode
  | kSuccess
  | kNotFound
  | kInternalError
  | kSystemError
  deriving DecidableEq, Repr

/-- A `Result`: an error code with a message and, on success, data. -/
structure Result (α : Type) where
  errorCode : ErrorCode
  errorMessage : String
  data : Option α
  deriving DecidableEq, Repr

/-- A `Result` without data. -/
def Result.void {α : Type} (errorCode : ErrorCode) (errorMessage : String) : Result α :=
  ⟨errorCode, errorMessage, none⟩

/-- The error code of a `Result` without data. -/
@[simp] lemma Result.errorCode_void {α : Type} (errorCode : ErrorCode) (errorMessage : String) :
    (Result.void errorCode errorMessage : Result α).errorCode = errorCode := rfl

/-- The message of a `Result` without data. -/
@[simp] lemma Result.errorMessage_void {α : Type} (errorCode : ErrorCode)
    (errorMessage : String) :
    (Result.void errorCode errorMessage : Result α).errorMessage = errorMessage := rfl

/-- A `Result` without data has none. -/
@[simp] lemma Result.data_void {α : Type} (errorCode : ErrorCode) (errorMessage : String) :
    (Result.void errorCode errorMessage : Result α).data = none := rfl

namespace Grpc

/-- `ToGrpcStatus`: the status that a result code is answered with. -/
def toGrpcStatus : ErrorCode → Status
  | .kSuccess => .OK
  | .kNotFound => ⟨.notFound, "not found"⟩
  | .kInternalError => ⟨.invalidArgument, "invalid argument"⟩
  | .kSystemError => ⟨.internal, "internal error"⟩

/-- Only success is answered with `OK`. -/
lemma toGrpcStatus_eq_OK {code : ErrorCode} : toGrpcStatus code = .OK ↔ code = .kSuccess := by
  cases code <;> simp [toGrpcStatus, Status.OK]

/-! ## Handlers -/

/-- A `std::exception` that a hook throws. -/
structure Exception where
  what : String
  deriving DecidableEq, Repr

/-- The hooks of a handler. -/
structure GrpcHandlerInterface (m : Type → Type) (Context Request Response ServerData : Type) where
  checkPermission : Context → Request → m (Except Exception (Result Unit))
  convertToServerData : Context → Request → m (Except Exception (Result ServerData))
  validateParams : ServerData → m (Except Exception (Result Unit) × ServerData)
  checkPreconditions : ServerData → m (Except Exception (Result Unit) × ServerData)
  executeBusiness : ServerData → m (Except Exception (Result Unit) × ServerData)
  verifyExecutionEffective : ServerData → m (Except Exception (Result Unit) × ServerData)
  rollback : ServerData → m (Except Exception Unit × ServerData)
  notifyService : ServerData → m (Except Exception (Result Unit) × ServerData)
  buildResponse :
    ServerData → Response → m (Except Exception (Result Unit) × ServerData × Response)

namespace GrpcHandlerInterface

variable {m : Type → Type} [Monad m] {Context Request Response ServerData : Type}
variable (handler : GrpcHandlerInterface m Context Request Response ServerData)

/-- What the `catch` clause answers. -/
def exceptionResult : Result Unit := .void .kSystemError "handler run exception"

/-- The `catch` clause while an exception rolls back; a second exception is swallowed. -/
def rollbackOnException (data : ServerData) : m (Result Unit) := do
  let _ ← handler.rollback data
  return exceptionResult

/-- A failure that rolls back. The flag that makes an exception roll back is still set while the
rollback runs. -/
def rollbackAndReturn (result : Result Unit) (data : ServerData) : m (Result Unit) := do
  match ← handler.rollback data with
  | (.ok (), _) => return result
  | (.error _, data) => handler.rollbackOnException data

/-- Step 7: build the response. -/
def build (data : ServerData) (response : Response) : m (Result Unit × Response) := do
  match ← handler.buildResponse data response with
  | (.error _, data, response) => return (← handler.rollbackOnException data, response)
  | (.ok result, data, response) =>
    if result.errorCode ≠ .kSuccess then
      return (← handler.rollbackAndReturn result data, response)
    else
      return (.void .kSuccess "success", response)

/-- Step 6: notify the other services. A failure is only logged, an exception is not rolled
back. -/
def notify (data : ServerData) (response : Response) : m (Result Unit × Response) := do
  match ← handler.notifyService data with
  | (.error _, _) => return (exceptionResult, response)
  | (.ok _, data) => handler.build data response

/-- Step 5: check that the business took effect. -/
def verify (data : ServerData) (response : Response) : m (Result Unit × Response) := do
  match ← handler.verifyExecutionEffective data with
  | (.error _, data) => return (← handler.rollbackOnException data, response)
  | (.ok result, data) =>
    if result.errorCode ≠ .kSuccess then
      return (← handler.rollbackAndReturn result data, response)
    else
      handler.notify data response

/-- Step 4: the business. -/
def execute (data : ServerData) (response : Response) : m (Result Unit × Response) := do
  match ← handler.executeBusiness data with
  | (.error _, data) => return (← handler.rollbackOnException data, response)
  | (.ok result, data) =>
    if result.errorCode ≠ .kSuccess then
      return (← handler.rollbackAndReturn result data, response)
    else
      handler.verify data response

/-- Steps 2 and 3: check the parameters and the preconditions. -/
def validate (data : ServerData) (response : Response) : m (Result Unit × Response) := do
  match ← handler.validateParams data with
  | (.error _, _) => return (exceptionResult, response)
  | (.ok result, data) =>
    if result.errorCode ≠ .kSuccess then
      return (result, response)
    else
      match ← handler.checkPreconditions data with
      | (.error _, _) => return (exceptionResult, response)
      | (.ok result, data) =>
        if result.errorCode ≠ .kSuccess then
          return (result, response)
        else
          handler.execute data response

/-- The permission check and step 1: convert the request. -/
def convert (context : Context) (request : Request) (response : Response) :
    m (Result Unit × Response) := do
  match ← handler.checkPermission context request with
  | .error _ => return (exceptionResult, response)
  | .ok result =>
    if result.errorCode ≠ .kSuccess then
      return (result, response)
    else
      match ← handler.convertToServerData context request with
      | .error _ => return (exceptionResult, response)
      | .ok result =>
        if result.errorCode ≠ .kSuccess then
          return (.void result.errorCode result.errorMessage, response)
        else
          match result.data with
          | none => return (.void .kInternalError "data is null", response)
          | some data => handler.validate data response

/-- `Run`, which first checks its three pointers. The response it leaves is returned next to the
result. -/
def run (context : Option Context) (request : Option Request) (response : Option Response) :
    m (Result Unit × Option Response) :=
  match context, request, response with
  | none, _, response => return (.void .kInternalError "context is nullptr", response)
  | some _, none, response => return (.void .kInternalError "request is nullptr", response)
  | some _, some _, none => return (.void .kInternalError "response is nullptr", none)
  | some context, some request, some response => do
    let (result, response) ← handler.convert context request response
    return (result, some response)

/-! ## Plain handlers -/

/-- A handler with the default permission check that only converts, validates, executes and
builds, and whose hooks throw nothing. -/
def plain (convertToServerData : Request → Result ServerData)
    (validateParams : ServerData → Result Unit)
    (executeBusiness : ServerData → m (Result Unit × ServerData))
    (buildResponse : ServerData → Response → Response) :
    GrpcHandlerInterface m Context Request Response ServerData where
  checkPermission _ _ := return .ok (.void .kSuccess "success")
  convertToServerData _ request := return .ok (convertToServerData request)
  validateParams data := return (.ok (validateParams data), data)
  checkPreconditions data := return (.ok (.void .kSuccess "success"), data)
  executeBusiness data := do
    let (result, data) ← executeBusiness data
    return (.ok result, data)
  verifyExecutionEffective data := return (.ok (.void .kSuccess "success"), data)
  rollback data := return (.ok (), data)
  notifyService data := return (.ok (.void .kSuccess "success"), data)
  buildResponse data response :=
    return (.ok (.void .kSuccess "success"), data, buildResponse data response)

variable (convertToServerData : Request → Result ServerData)
  (validateParams : ServerData → Result Unit)
  (executeBusiness : ServerData → m (Result Unit × ServerData))
  (buildResponse : ServerData → Response → Response)

/-- The business of a plain handler, and its response. -/
def plainExecute (data : ServerData) (response : Response) : m (Result Unit × Response) := do
  let (result, data) ← executeBusiness data
  if result.errorCode ≠ .kSuccess then
    return (result, response)
  else
    return (.void .kSuccess "success", buildResponse data response)

/-- What a plain handler does: convert, validate, execute, build. -/
def plainConvert (request : Request) (response : Response) : m (Result Unit × Response) :=
  let converted := convertToServerData request
  if converted.errorCode ≠ .kSuccess then
    return (.void converted.errorCode converted.errorMessage, response)
  else
    match converted.data with
    | none => return (.void .kInternalError "data is null", response)
    | some data =>
      let validated := validateParams data
      if validated.errorCode ≠ .kSuccess then
        return (validated, response)
      else
        plainExecute executeBusiness buildResponse data response

variable {convertToServerData validateParams executeBusiness buildResponse} in
/-- A request that does not convert is refused. -/
lemma plainConvert_of_unconverted {request : Request} {code : ErrorCode} {message : String}
    (hconvert : convertToServerData request = .void code message) (hcode : code ≠ .kSuccess)
    (response : Response) :
    plainConvert convertToServerData validateParams executeBusiness buildResponse request response =
      return (.void code message, response) := by
  simp [plainConvert, hconvert, hcode]

variable {convertToServerData validateParams executeBusiness buildResponse} in
/-- A request with invalid parameters is refused. -/
lemma plainConvert_of_invalid {request : Request} {message : String} {data : ServerData}
    (hconvert : convertToServerData request = ⟨.kSuccess, message, some data⟩)
    (hvalidate : (validateParams data).errorCode ≠ .kSuccess) (response : Response) :
    plainConvert convertToServerData validateParams executeBusiness buildResponse request response =
      return (validateParams data, response) := by
  simp [plainConvert, hconvert, hvalidate]

variable {convertToServerData validateParams executeBusiness buildResponse} in
/-- A valid request runs the business. -/
lemma plainConvert_of_valid {request : Request} {message : String} {data : ServerData}
    (hconvert : convertToServerData request = ⟨.kSuccess, message, some data⟩)
    (hvalidate : (validateParams data).errorCode = .kSuccess) (response : Response) :
    plainConvert convertToServerData validateParams executeBusiness buildResponse request response =
      plainExecute executeBusiness buildResponse data response := by
  simp [plainConvert, hconvert, hvalidate]

variable [LawfulMonad m]

/-- The business of a plain handler in the pipeline. -/
lemma execute_plain (data : ServerData) (response : Response) :
    (plain convertToServerData validateParams executeBusiness buildResponse :
        GrpcHandlerInterface m Context Request Response ServerData).execute data response =
      plainExecute executeBusiness buildResponse data response := by
  unfold execute plainExecute
  simp only [plain, bind_assoc, pure_bind]
  refine bind_congr fun (result, data) => ?_
  by_cases hresult : result.errorCode = .kSuccess
  · simp [hresult, verify, notify, build, Result.void]
  · simp [hresult, rollbackAndReturn]

/-- The pipeline of a plain handler.

**Proof sketch.** Step by step: the hooks that a plain handler leaves out succeed and change
nothing. -/
lemma run_plain (context : Context) (request : Request) (response : Response) :
    (plain convertToServerData validateParams executeBusiness buildResponse :
        GrpcHandlerInterface m Context Request Response ServerData).run
        (some context) (some request) (some response) = (do
      let (result, response) ← plainConvert convertToServerData validateParams executeBusiness
        buildResponse request response
      return (result, some response)) := by
  have hconvert : (plain convertToServerData validateParams executeBusiness buildResponse :
      GrpcHandlerInterface m Context Request Response ServerData).convert context request response =
        plainConvert convertToServerData validateParams executeBusiness buildResponse request
          response := by
    have hexecute (data : ServerData) :
        (plain convertToServerData validateParams executeBusiness buildResponse :
          GrpcHandlerInterface m Context Request Response ServerData).execute data response =
            plainExecute executeBusiness buildResponse data response :=
      execute_plain convertToServerData validateParams executeBusiness buildResponse data response
    unfold convert plainConvert
    simp only [← hexecute]
    by_cases hconverted : (convertToServerData request).errorCode = .kSuccess
    · cases hdata : (convertToServerData request).data with
      | none => simp [plain, hconverted, hdata, Result.void]
      | some data =>
        by_cases hvalidated : (validateParams data).errorCode = .kSuccess
        · simp [plain, hconverted, hdata, hvalidated, validate, Result.void]
        · simp [plain, hconverted, hdata, hvalidated, validate, Result.void]
    · simp [plain, hconverted, Result.void]
  simp only [run, hconvert]

end GrpcHandlerInterface

end Grpc
