import QTradeService.Dao.AccountTables

set_option relaxedAutoImplicit false
set_option autoImplicit false

/-!
# The messages of the account service

The protobuf messages of `account/v1/account.proto`, with the fields that the service reads or
fills, and their conversions to records (`trading_account_converter.cpp`).

## Main definitions

* `AccountService.TradingAccount`, `AccountService.CredentialMaterial` — an account, and what an
  engine needs to log in.
* `AccountService.AccountCall`, `AccountService.AccountAnswer` — the five calls and their answers.
* `AccountService.toTradingAccountRecord`, `AccountService.toTradingAccountProto`.
-/

namespace AccountService

open Dao (TradingAccountRecord)

/-- A trading account (`TradingAccount`). -/
structure TradingAccount where
  accountId : String
  brokerId : String
  password : String
  connectionString : String
  /-- `active` or `disabled`. -/
  status : String
  deriving DecidableEq, Repr

/-- The message with no field set. -/
def TradingAccount.unset : TradingAccount := ⟨"", "", "", "", ""⟩

/-- What an engine needs to log in (`CredentialMaterial`). -/
structure CredentialMaterial where
  accountId : String
  brokerId : String
  connectionString : String
  password : String
  deriving DecidableEq, Repr

/-! ## Requests -/

structure AddAccountRequest where
  account : Option TradingAccount
  deriving DecidableEq, Repr

structure GetAccountRequest where
  accountId : String
  deriving DecidableEq, Repr

structure ListAccountsRequest where
  deriving DecidableEq, Repr

structure UpdateAccountRequest where
  account : Option TradingAccount
  deriving DecidableEq, Repr

structure GetCredentialRequest where
  accountId : String
  engineId : String
  deriving DecidableEq, Repr

/-- A call of the service. -/
inductive AccountCall
  | addAccount (request : AddAccountRequest)
  | getAccount (request : GetAccountRequest)
  | listAccounts (request : ListAccountsRequest)
  | updateAccount (request : UpdateAccountRequest)
  | getCredential (request : GetCredentialRequest)
  deriving DecidableEq, Repr

/-- The account that an `UpdateAccount` carries. -/
def AccountCall.updated : AccountCall → Option TradingAccount
  | .updateAccount request => request.account
  | _ => none

/-- The account that an `AddAccount` or `UpdateAccount` carries. -/
def AccountCall.written : AccountCall → Option TradingAccount
  | .addAccount request => request.account
  | .updateAccount request => request.account
  | _ => none

/-! ## Responses -/

structure AddAccountResponse where
  deriving DecidableEq, Repr

structure GetAccountResponse where
  account : Option TradingAccount
  deriving DecidableEq, Repr

structure ListAccountsResponse where
  accounts : List TradingAccount
  deriving DecidableEq, Repr

structure UpdateAccountResponse where
  deriving DecidableEq, Repr

structure GetCredentialResponse where
  credential : Option CredentialMaterial
  deriving DecidableEq, Repr

/-- The response of a call. -/
inductive AccountResponse
  | addAccount (response : AddAccountResponse)
  | getAccount (response : GetAccountResponse)
  | listAccounts (response : ListAccountsResponse)
  | updateAccount (response : UpdateAccountResponse)
  | getCredential (response : GetCredentialResponse)
  deriving DecidableEq, Repr

/-! ## Conversions -/

/-- `ToTradingAccountRecord`: every field gets a value, and an empty status becomes `active`. -/
def toTradingAccountRecord (account : TradingAccount) : TradingAccountRecord where
  accountId := some account.accountId
  brokerId := some account.brokerId
  connectionString := some account.connectionString
  status := some (if account.status = "" then "active" else account.status)

/-- `ToTradingAccountProto`, which leaves the password alone. -/
def toTradingAccountProto (record : TradingAccountRecord) (account : TradingAccount) :
    TradingAccount :=
  { account with
    accountId := record.accountId.getD ""
    brokerId := record.brokerId.getD ""
    connectionString := record.connectionString.getD ""
    status := record.status.getD "" }

end AccountService
