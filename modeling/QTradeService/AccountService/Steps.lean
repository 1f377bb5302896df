import QTradeService.AccountService.Handlers

set_option relaxedAutoImplicit false
set_option autoImplicit false

/-!
# What a call can do

All that the five calls can answer, and do to the two tables, on a database that conforms and has
no open transaction: a refusal with its reason and unchanged tables, or one case for each call.
That the service does nothing else is `AccountService.accountStep_serve`.

## Main definitions

* `AccountService.Refused` — why a call is refused.
* `AccountService.AccountStep` — the answer of a call and the tables after it.
-/

namespace AccountService

open Sql Dao Database Grpc

/-! ## Statements -/

/-- The condition for the row of an account. -/
def accountIs (accountId : String) : KeyValues := [("account_id", accountId)]

/-- The condition for the password row of an account. -/
def passwordOf (accountId : String) : KeyValues :=
  [("account_id", accountId), ("credential_type", "1")]

/-- The row of an account. -/
def accountValues (account : TradingAccount) : KeyValues :=
  buildTradingAccountValues (toTradingAccountRecord account)

/-- The password row of an account. -/
def credentialValues (account : TradingAccount) : KeyValues :=
  buildAccountCredentialValues
    (credentialRow (some account.accountId) "stub-v1" account.password)

/-- The statement that inserts the row of an account. -/
def insertAccount (account : TradingAccount) : Statement :=
  .insert Dao.TradingAccount.tableName (accountValues account)

/-- The statement that inserts the password row of an account. -/
def insertCredential (account : TradingAccount) : Statement :=
  .insert AccountCredential.tableName (credentialValues account)

/-- The statement that overwrites the row of an account. -/
def updateAccountRow (account : TradingAccount) : Statement :=
  .update Dao.TradingAccount.tableName (accountValues account) (accountIs account.accountId)

/-- The statement that overwrites the password row of an account. -/
def updateCredential (account : TradingAccount) : Statement :=
  .update AccountCredential.tableName (credentialValues account) (passwordOf account.accountId)

/-- The values of the password row of an account. -/
lemma credentialValues_eq (account : TradingAccount) :
    credentialValues account =
      [("account_id", account.accountId), ("credential_type", "1"), ("key_id", "stub-v1"),
        ("ciphertext", account.password)] := rfl

/-- The row of an account has a value for every column. -/
lemma complete_accountValues (account : TradingAccount) :
    ∀ column ∈ tradingAccountTable.columns, column ∈ (accountValues account).map Prod.fst :=
  fun _ h => h

/-- The password row of an account has a value for every column. -/
lemma complete_credentialValues (account : TradingAccount) :
    ∀ column ∈ accountCredentialTable.columns,
      column ∈ (credentialValues account).map Prod.fst := by
  simp [accountCredentialTable, credentialValues_eq]

/-- The condition for the row of an account reaches the database. -/
lemma conditionsOf_account {accountId : String} (h : accountId ≠ "") :
    conditionsOf (buildTradingAccountValues { accountId := some accountId }) =
      accountIs accountId :=
  conditionsOf_cons_of_ne h []

/-- The condition for the password row of an account reaches the database. -/
lemma conditionsOf_password {accountId : String} (h : accountId ≠ "") :
    conditionsOf (buildAccountCredentialValues
      { accountId := some accountId, credentialType := some .kPassword }) =
      passwordOf accountId :=
  conditionsOf_cons_of_ne h [("credential_type", "1")]

/-! ## Steps -/

/-- The statement affects some row, as the database counts. -/
def Affects (counting : Counting) (statement : Statement) (store : Store accountSchema) : Prop :=
  ∃ affected, counting.Reports statement (store.rows statement.table) affected ∧ affected ≠ 0

/-- The request passes the validation of its handler. -/
def AccountCall.Valid : AccountCall → Prop
  | .addAccount ⟨none⟩ => False
  | .addAccount ⟨some account⟩ => account.accountId ≠ "" ∧ account.password ≠ ""
  | .getAccount request => request.accountId ≠ ""
  | .listAccounts _ => True
  | .updateAccount ⟨none⟩ => False
  | .updateAccount ⟨some account⟩ => account.accountId ≠ ""
  | .getCredential request => request.engineId ≠ "" ∧ request.accountId ≠ ""

section

variable (faults : Prop) (counting : Counting) (store : Store accountSchema)

/-- Why a call is refused, with the error code. -/
inductive Refused : AccountCall → ErrorCode → Prop
  | faulty {call : AccountCall} {code : ErrorCode} (h : faults) : Refused call code
  | invalid {call : AccountCall} (h : ¬call.Valid) : Refused call .kInternalError
  | accountExists {account : TradingAccount}
      (h : store.select Dao.TradingAccount.tableName (accountIs account.accountId) ≠ []) :
      Refused (.addAccount ⟨some account⟩) .kSystemError
  | accountNotInserted {account : TradingAccount} (h : store.exec (insertAccount account) = none) :
      Refused (.addAccount ⟨some account⟩) .kSystemError
  | credentialNotInserted {account : TradingAccount} {store₁ : Store accountSchema}
      (hinsert : store.exec (insertAccount account) = some store₁)
      (h : store₁.exec (insertCredential account) = none) :
      Refused (.addAccount ⟨some account⟩) .kSystemError
  | accountNotUpdated {account : TradingAccount}
      (h : store.exec (updateAccountRow account) = none) :
      Refused (.updateAccount ⟨some account⟩) .kSystemError
  | accountNotAffected {account : TradingAccount}
      (h : counting.Reports (updateAccountRow account)
        (store.rows Dao.TradingAccount.tableName) 0) :
      Refused (.updateAccount ⟨some account⟩) .kNotFound
  | credentialMissing {account : TradingAccount} {store₁ : Store accountSchema}
      (hupdate : store.exec (updateAccountRow account) = some store₁)
      (h : store₁.select AccountCredential.tableName (passwordOf account.accountId) = []) :
      Refused (.updateAccount ⟨some account⟩) .kNotFound
  | credentialNotUpdated {account : TradingAccount} {store₁ : Store accountSchema}
      (hupdate : store.exec (updateAccountRow account) = some store₁)
      (h : store₁.exec (updateCredential account) = none) :
      Refused (.updateAccount ⟨some account⟩) .kSystemError
  | credentialNotAffected {account : TradingAccount} {store₁ : Store accountSchema}
      (hupdate : store.exec (updateAccountRow account) = some store₁)
      (h : counting.Reports (updateCredential account)
        (store₁.rows AccountCredential.tableName) 0) :
      Refused (.updateAccount ⟨some account⟩) .kNotFound
  | accountNotFound {accountId : String} {call : AccountCall}
      (hcall : call = .getAccount ⟨accountId⟩ ∨
        ∃ engineId, call = .getCredential ⟨accountId, engineId⟩)
      (h : store.select Dao.TradingAccount.tableName (accountIs accountId) = []) :
      Refused call .kNotFound
  | disabled {accountId engineId : String} {row : Row}
      (hrow : row ∈ store.select Dao.TradingAccount.tableName (accountIs accountId))
      (h : row "status" = some "disabled") :
      Refused (.getCredential ⟨accountId, engineId⟩) .kInternalError
  | credentialNotFound {accountId engineId : String}
      (h : store.select AccountCredential.tableName (passwordOf accountId) = []) :
      Refused (.getCredential ⟨accountId, engineId⟩) .kNotFound
  | credentialUnusable {accountId engineId : String} {row : Row}
      (hrow : row ∈ store.select AccountCredential.tableName (passwordOf accountId))
      (h : (row "key_id").getD "" = "" ∨ (row "ciphertext").getD "" = "") :
      Refused (.getCredential ⟨accountId, engineId⟩) .kInternalError

/-- The answer of a call and the tables after it. -/
inductive AccountStep : AccountCall → Status × AccountResponse → Store accountSchema → Prop
  | refused {call : AccountCall} {code : ErrorCode} (response : AccountResponse)
      (hcode : code ≠ .kSuccess) (h : Refused faults counting store call code) :
      AccountStep call (toGrpcStatus code, response) store
  | added {account : TradingAccount} {store₁ store₂ : Store accountSchema}
      (hvalid : (AccountCall.addAccount ⟨some account⟩).Valid)
      (hfresh : store.select Dao.TradingAccount.tableName (accountIs account.accountId) = [])
      (haccount : store.exec (insertAccount account) = some store₁)
      (hcredential : store₁.exec (insertCredential account) = some store₂) :
      AccountStep (.addAccount ⟨some account⟩) (.OK, .addAccount {}) store₂
  | got {accountId : String} {row : Row} (hvalid : (AccountCall.getAccount ⟨accountId⟩).Valid)
      (hrow : row ∈ store.select Dao.TradingAccount.tableName (accountIs accountId)) :
      AccountStep (.getAccount ⟨accountId⟩) (.OK, .getAccount (GetAccountHandler.buildResponse
        ⟨accountId, .ofRow row⟩ ⟨none⟩)) store
  | listed {rows : List Row}
      (hrows : rows.Perm (store.select Dao.TradingAccount.tableName [])) :
      AccountStep (.listAccounts {}) (.OK, .listAccounts (ListAccountsHandler.buildResponse
        ⟨rows.map .ofRow⟩ ⟨[]⟩)) store
  | updated {account : TradingAccount} {store₁ store₂ : Store accountSchema}
      (hvalid : (AccountCall.updateAccount ⟨some account⟩).Valid)
      (haccount : store.exec (updateAccountRow account) = some store₁)
      (haffects : Affects counting (updateAccountRow account) store)
      (hcredential : if account.password = "" then store₂ = store₁
        else store₁.exec (updateCredential account) = some store₂ ∧
          Affects counting (updateCredential account) store₁) :
      AccountStep (.updateAccount ⟨some account⟩) (.OK, .updateAccount {}) store₂
  | gave {accountId engineId password : String} {row credential : Row}
      (hvalid : (AccountCall.getCredential ⟨accountId, engineId⟩).Valid)
      (hrow : row ∈ store.select Dao.TradingAccount.tableName (accountIs accountId))
      (hstatus : row "status" ≠ some "disabled")
      (hcredential :
        credential ∈ store.select AccountCredential.tableName (passwordOf accountId))
      (hpassword : credential "ciphertext" = some password) :
      AccountStep (.getCredential ⟨accountId, engineId⟩)
        (.OK, .getCredential (GetCredentialHandler.buildResponse
          ⟨accountId, engineId, password, .ofRow row⟩ ⟨none⟩)) store

end

end AccountService
