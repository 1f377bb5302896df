import QTradeService.AccountService.Handlers
import QTradeService.Library.Machine

set_option relaxedAutoImplicit false
set_option autoImplicit false

/-!
# The account service

`AccountGrpcService`: every call checks that the database is ready, runs its handler and maps the
result to a status. Calls are served one after the other.

## Main definitions

* `AccountService.serve` — the program of a call.
* `AccountService.service` — the service on a database, as a machine.
-/

namespace AccountService

open Sql Dao Database Grpc

/-! ## Calls -/

/-- `AccountGrpcService::DatabaseReady`, for managers that exist. -/
def databaseReady : Db Bool := isReady

/-- A call that runs a handler. -/
def runHandler {Request Response ServerData : Type}
    (handler : GrpcHandlerInterface Db Unit Request Response ServerData) (request : Request)
    (response : Response) : Db (Status × Response) := do
  if !(← databaseReady) then
    return (toGrpcStatus .kSystemError, response)
  let (result, response') ← handler.run (some ()) (some request) (some response)
  return (toGrpcStatus result.errorCode, response'.getD response)

/-- `AccountGrpcService::AddAccount`. -/
def addAccount (request : AddAccountRequest) : Db (Status × AddAccountResponse) :=
  runHandler addAccountHandler request {}

/-- `AccountGrpcService::GetAccount`. -/
def getAccount (request : GetAccountRequest) : Db (Status × GetAccountResponse) :=
  runHandler getAccountHandler request ⟨none⟩

/-- `AccountGrpcService::ListAccounts`. -/
def listAccounts (request : ListAccountsRequest) : Db (Status × ListAccountsResponse) :=
  runHandler listAccountsHandler request ⟨[]⟩

/-- `AccountGrpcService::UpdateAccount`. -/
def updateAccount (request : UpdateAccountRequest) : Db (Status × UpdateAccountResponse) :=
  runHandler updateAccountHandler request {}

/-- `AccountGrpcService::GetCredential`. -/
def getCredential (request : GetCredentialRequest) : Db (Status × GetCredentialResponse) :=
  runHandler getCredentialHandler request ⟨none⟩

/-- Serve one call. -/
def serve : AccountCall → Db (Status × AccountResponse)
  | .addAccount request => do
    let (status, response) ← addAccount request
    return (status, .addAccount response)
  | .getAccount request => do
    let (status, response) ← getAccount request
    return (status, .getAccount response)
  | .listAccounts request => do
    let (status, response) ← listAccounts request
    return (status, .listAccounts response)
  | .updateAccount request => do
    let (status, response) ← updateAccount request
    return (status, .updateAccount response)
  | .getCredential request => do
    let (status, response) ← getCredential request
    return (status, .getCredential response)

/-- The service on a database. -/
def service {σ : Type} (db : Program.Handler Call.Answer σ) :
    Machine σ AccountCall (Status × AccountResponse) where
  step call s := (serve call).run db s

end AccountService
