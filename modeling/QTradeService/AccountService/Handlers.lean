import QTradeService.AccountService.Messages

set_option relaxedAutoImplicit false
set_option autoImplicit false

/-!
# The handlers of the account service

The five handlers of `account_service/handler` with the credential codec. `AddAccount` and
`UpdateAccount` write both tables in one transaction and roll it back on every failure.

## Main definitions

* `AccountService.addAccountHandler`, `AccountService.getAccountHandler`,
  `AccountService.listAccountsHandler`, `AccountService.updateAccountHandler`,
  `AccountService.getCredentialHandler`.
-/

namespace AccountService

open Dao Database Grpc

/-- `kAccountDatabaseName`. -/
def kAccountDatabaseName : String := "account"

/-! ## The credential codec -/

/-- `EncryptCredential`: the key id and the ciphertext. -/
def encryptCredential (plaintext : String) : Option (String × String) :=
  if plaintext = "" then none else some ("stub-v1", plaintext)

/-- `DecryptCredential`: the plaintext. -/
def decryptCredential (keyId ciphertext : String) : Option String :=
  if keyId = "" ∨ ciphertext = "" then none else some ciphertext

/-- The credential row of an account with a new password. -/
def credentialRow (accountId : Option String) (keyId ciphertext : String) :
    AccountCredentialRecord where
  accountId := accountId
  credentialType := some .kPassword
  keyId := some keyId
  ciphertext := some ciphertext

/-! ## Transactions -/

/-- Roll the transaction back and fail. -/
def rollbackAndFail (errorCode : ErrorCode) (errorMessage : String) : Db (Result Unit) := do
  let _ ← rollbackTransaction
  return .void errorCode errorMessage

/-- Borrow a connection and begin a transaction on it. -/
def withTransaction (business : Db (Result Unit)) : Db (Result Unit) := do
  if !(← acquire kAccountDatabaseName) then
    return .void .kSystemError "database connection pool is unavailable"
  if !(← beginTransaction) then
    return .void .kSystemError "begin database transaction failed"
  business

/-- Commit the transaction. -/
def commit : Db (Result Unit) := do
  if !(← commitTransaction) then
    return ← rollbackAndFail .kSystemError "commit database transaction failed"
  return .void .kSuccess "success"

/-- `OptionalStringEmpty`. -/
def optionalStringEmpty (value : Option String) : Bool := value.getD "" = ""

/-! ## `AddAccount` -/

structure AddAccountServerData where
  /-- The password in clear text. -/
  password : String
  account : TradingAccountRecord
  deriving DecidableEq, Repr

namespace AddAccountHandler

/-- `AddAccountHandler::ConvertToServerData`. -/
def convertToServerData (request : AddAccountRequest) : Result AddAccountServerData :=
  match request.account with
  | none => .void .kInternalError "account is missing"
  | some account =>
    ⟨.kSuccess, "success", some ⟨account.password, toTradingAccountRecord account⟩⟩

/-- `AddAccountHandler::ValidateParams`. -/
def validateParams (serverData : AddAccountServerData) : Result Unit :=
  if optionalStringEmpty serverData.account.accountId || serverData.password = "" then
    .void .kInternalError "account_id and password are required"
  else
    .void .kSuccess "success"

/-- Steps 3 to 5 of `AddAccountHandler::ExecuteBusiness`: insert the two rows and commit. -/
def insertRows (serverData : AddAccountServerData) (keyId ciphertext : String) :
    Db (Result Unit) := do
  let insertAccount ← TradingAccount.insert [serverData.account]
  if insertAccount.errorCode ≠ .kSuccess then
    return ← rollbackAndFail insertAccount.errorCode insertAccount.errorMessage
  let insertCredential ←
    AccountCredential.insert [credentialRow serverData.account.accountId keyId ciphertext]
  if insertCredential.errorCode ≠ .kSuccess then
    return ← rollbackAndFail insertCredential.errorCode insertCredential.errorMessage
  commit

/-- `AddAccountHandler::ExecuteBusiness` after `BeginTransaction`. -/
def addRows (serverData : AddAccountServerData) : Db (Result Unit) := do
  let existing ← TradingAccount.count { accountId := serverData.account.accountId }
  if existing.errorCode ≠ .kSuccess then
    return ← rollbackAndFail existing.errorCode existing.errorMessage
  if 0 < existing.data.getD 0 then
    return ← rollbackAndFail .kSystemError "account already exists"
  match encryptCredential serverData.password with
  | none => rollbackAndFail .kInternalError "encrypt credential failed"
  | some (keyId, ciphertext) => insertRows serverData keyId ciphertext

/-- `AddAccountHandler::ExecuteBusiness`. -/
def executeBusiness (serverData : AddAccountServerData) :
    Db (Result Unit × AddAccountServerData) := do
  let result ← withTransaction (addRows serverData)
  return (result, serverData)

/-- `AddAccountHandler::BuildResponse`. -/
def buildResponse (_ : AddAccountServerData) (response : AddAccountResponse) :
    AddAccountResponse :=
  response

end AddAccountHandler

/-- `AddAccountHandler`. -/
def addAccountHandler :
    GrpcHandlerInterface Db Unit AddAccountRequest AddAccountResponse AddAccountServerData :=
  .plain AddAccountHandler.convertToServerData AddAccountHandler.validateParams
    AddAccountHandler.executeBusiness AddAccountHandler.buildResponse

/-! ## `GetAccount` -/

structure GetAccountServerData where
  accountId : String
  account : TradingAccountRecord
  deriving DecidableEq, Repr

namespace GetAccountHandler

/-- `GetAccountHandler::ConvertToServerData`. -/
def convertToServerData (request : GetAccountRequest) : Result GetAccountServerData :=
  ⟨.kSuccess, "success", some ⟨request.accountId, {}⟩⟩

/-- `GetAccountHandler::ValidateParams`. -/
def validateParams (serverData : GetAccountServerData) : Result Unit :=
  if serverData.accountId = "" then .void .kInternalError "account_id is required"
  else .void .kSuccess "success"

/-- `GetAccountHandler::ExecuteBusiness`. -/
def executeBusiness (serverData : GetAccountServerData) :
    Db (Result Unit × GetAccountServerData) := do
  if !(← acquire kAccountDatabaseName) then
    return (.void .kSystemError "database connection pool is unavailable", serverData)
  let result ← TradingAccount.select { accountId := some serverData.accountId }
  if result.errorCode ≠ .kSuccess then
    return (.void result.errorCode result.errorMessage, serverData)
  match result.data.getD [] with
  | [] => return (.void .kNotFound "account not found", serverData)
  | account :: _ => return (.void .kSuccess "success", { serverData with account })

/-- `GetAccountHandler::BuildResponse`: the password is left out. -/
def buildResponse (serverData : GetAccountServerData) (_ : GetAccountResponse) :
    GetAccountResponse :=
  ⟨some { toTradingAccountProto serverData.account .unset with password := "" }⟩

end GetAccountHandler

/-- `GetAccountHandler`. -/
def getAccountHandler :
    GrpcHandlerInterface Db Unit GetAccountRequest GetAccountResponse GetAccountServerData :=
  .plain GetAccountHandler.convertToServerData GetAccountHandler.validateParams
    GetAccountHandler.executeBusiness GetAccountHandler.buildResponse

/-! ## `ListAccounts` -/

structure ListAccountsServerData where
  accounts : List TradingAccountRecord
  deriving DecidableEq, Repr

namespace ListAccountsHandler

/-- `ListAccountsHandler::ConvertToServerData`. -/
def convertToServerData (_ : ListAccountsRequest) : Result ListAccountsServerData :=
  ⟨.kSuccess, "success", some ⟨[]⟩⟩

/-- `ListAccountsHandler::ValidateParams`. -/
def validateParams (_ : ListAccountsServerData) : Result Unit := .void .kSuccess "success"

/-- `ListAccountsHandler::ExecuteBusiness`. -/
def executeBusiness (serverData : ListAccountsServerData) :
    Db (Result Unit × ListAccountsServerData) := do
  if !(← acquire kAccountDatabaseName) then
    return (.void .kSystemError "database connection pool is unavailable", serverData)
  let result ← TradingAccount.select {}
  match result.errorCode, result.data with
  | .kSuccess, some accounts => return (.void .kSuccess "success", { accounts })
  | errorCode, _ => return (.void errorCode result.errorMessage, serverData)

/-- `ListAccountsHandler::BuildResponse`: the passwords are left out. -/
def buildResponse (serverData : ListAccountsServerData) (response : ListAccountsResponse) :
    ListAccountsResponse :=
  ⟨response.accounts ++ serverData.accounts.map fun row =>
    { toTradingAccountProto row .unset with password := "" }⟩

end ListAccountsHandler

/-- `ListAccountsHandler`. -/
def listAccountsHandler :
    GrpcHandlerInterface Db Unit ListAccountsRequest ListAccountsResponse ListAccountsServerData :=
  .plain ListAccountsHandler.convertToServerData ListAccountsHandler.validateParams
    ListAccountsHandler.executeBusiness ListAccountsHandler.buildResponse

/-! ## `UpdateAccount` -/

structure UpdateAccountServerData where
  /-- The credential is updated too. -/
  updatePassword : Bool
  /-- The new password in clear text; empty leaves the credential alone. -/
  password : String
  account : TradingAccountRecord
  deriving DecidableEq, Repr

namespace UpdateAccountHandler

/-- `UpdateAccountHandler::ConvertToServerData`. -/
def convertToServerData (request : UpdateAccountRequest) : Result UpdateAccountServerData :=
  match request.account with
  | none => .void .kInternalError "account is missing"
  | some account =>
    ⟨.kSuccess, "success",
      some ⟨account.password ≠ "", account.password, toTradingAccountRecord account⟩⟩

/-- `UpdateAccountHandler::ValidateParams`. -/
def validateParams (serverData : UpdateAccountServerData) : Result Unit :=
  if optionalStringEmpty serverData.account.accountId then
    .void .kInternalError "account_id is required"
  else
    .void .kSuccess "success"

/-- Step 2 of `UpdateAccountHandler::ExecuteBusiness` for a new password, and step 3. -/
def updateCredential (serverData : UpdateAccountServerData) : Db (Result Unit) := do
  match encryptCredential serverData.password with
  | none => rollbackAndFail .kInternalError "encrypt credential failed"
  | some (keyId, ciphertext) =>
    let credentialKey : AccountCredentialRecord :=
      { accountId := serverData.account.accountId, credentialType := some .kPassword }
    let existing ← AccountCredential.select credentialKey
    if existing.errorCode ≠ .kSuccess || (existing.data.getD []).isEmpty then
      return ← rollbackAndFail .kNotFound "credential not found"
    let updateCredential ← AccountCredential.update
      (credentialRow serverData.account.accountId keyId ciphertext) credentialKey
    if updateCredential.errorCode ≠ .kSuccess then
      return ← rollbackAndFail updateCredential.errorCode updateCredential.errorMessage
    if updateCredential.data.getD 0 = 0 then
      return ← rollbackAndFail .kNotFound "credential not found"
    commit

/-- `UpdateAccountHandler::ExecuteBusiness` after `BeginTransaction`. -/
def updateRows (serverData : UpdateAccountServerData) : Db (Result Unit) := do
  let updateResult ←
    TradingAccount.update serverData.account { accountId := serverData.account.accountId }
  if updateResult.errorCode ≠ .kSuccess then
    return ← rollbackAndFail updateResult.errorCode updateResult.errorMessage
  if updateResult.data.getD 0 = 0 then
    return ← rollbackAndFail .kNotFound "account not found"
  if serverData.updatePassword then updateCredential serverData else commit

/-- `UpdateAccountHandler::ExecuteBusiness`. -/
def executeBusiness (serverData : UpdateAccountServerData) :
    Db (Result Unit × UpdateAccountServerData) := do
  let result ← withTransaction (updateRows serverData)
  return (result, serverData)

/-- `UpdateAccountHandler::BuildResponse`. -/
def buildResponse (_ : UpdateAccountServerData) (response : UpdateAccountResponse) :
    UpdateAccountResponse :=
  response

end UpdateAccountHandler

/-- `UpdateAccountHandler`. -/
def updateAccountHandler :
    GrpcHandlerInterface Db Unit UpdateAccountRequest UpdateAccountResponse
      UpdateAccountServerData :=
  .plain UpdateAccountHandler.convertToServerData UpdateAccountHandler.validateParams
    UpdateAccountHandler.executeBusiness UpdateAccountHandler.buildResponse

/-! ## `GetCredential` -/

structure GetCredentialServerData where
  accountId : String
  engineId : String
  /-- The password in clear text. -/
  password : String
  account : TradingAccountRecord
  deriving DecidableEq, Repr

namespace GetCredentialHandler

/-- `GetCredentialHandler::ConvertToServerData`. -/
def convertToServerData (request : GetCredentialRequest) : Result GetCredentialServerData :=
  ⟨.kSuccess, "success", some ⟨request.accountId, request.engineId, "", {}⟩⟩

/-- `GetCredentialHandler::ValidateParams`. -/
def validateParams (serverData : GetCredentialServerData) : Result Unit :=
  if serverData.engineId = "" || serverData.accountId = "" then
    .void .kInternalError "engine_id and account_id are required"
  else
    .void .kSuccess "success"

/-- The second half of `GetCredentialHandler::ExecuteBusiness`: read and decrypt the password. -/
def readPassword (serverData : GetCredentialServerData) :
    Db (Result Unit × GetCredentialServerData) := do
  let credResult ← AccountCredential.select
    { accountId := some serverData.accountId, credentialType := some .kPassword }
  if credResult.errorCode ≠ .kSuccess then
    return (.void credResult.errorCode credResult.errorMessage, serverData)
  match credResult.data.getD [] with
  | [] => return (.void .kNotFound "credential not found", serverData)
  | credRow :: _ =>
    match credRow.keyId, credRow.ciphertext with
    | some keyId, some ciphertext =>
      match decryptCredential keyId ciphertext with
      | none => return (.void .kInternalError "decrypt credential failed", serverData)
      | some password => return (.void .kSuccess "success", { serverData with password })
    | _, _ => return (.void .kInternalError "credential data invalid", serverData)

/-- `GetCredentialHandler::ExecuteBusiness`. -/
def executeBusiness (serverData : GetCredentialServerData) :
    Db (Result Unit × GetCredentialServerData) := do
  if !(← acquire kAccountDatabaseName) then
    return (.void .kSystemError "database connection pool is unavailable", serverData)
  let accountResult ← TradingAccount.select { accountId := some serverData.accountId }
  if accountResult.errorCode ≠ .kSuccess then
    return (.void accountResult.errorCode accountResult.errorMessage, serverData)
  match accountResult.data.getD [] with
  | [] => return (.void .kNotFound "account not found", serverData)
  | account :: _ =>
    let serverData := { serverData with account }
    if account.status.getD "" = "disabled" then
      return (.void .kInternalError "account is disabled", serverData)
    readPassword serverData

/-- `GetCredentialHandler::BuildResponse`. -/
def buildResponse (serverData : GetCredentialServerData) (_ : GetCredentialResponse) :
    GetCredentialResponse :=
  ⟨some
    { accountId := serverData.accountId
      brokerId := serverData.account.brokerId.getD ""
      connectionString := serverData.account.connectionString.getD ""
      password := serverData.password }⟩

end GetCredentialHandler

/-- `GetCredentialHandler`. -/
def getCredentialHandler :
    GrpcHandlerInterface Db Unit GetCredentialRequest GetCredentialResponse
      GetCredentialServerData :=
  .plain GetCredentialHandler.convertToServerData GetCredentialHandler.validateParams
    GetCredentialHandler.executeBusiness GetCredentialHandler.buildResponse

end AccountService
