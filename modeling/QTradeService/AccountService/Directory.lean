import Mathlib.Data.Set.Basic
import Mathlib.Logic.Function.Basic
import QTradeService.AccountService.Disabled

set_option relaxedAutoImplicit false
set_option autoImplicit false

/-!
# The account service as a map

What the service is for, without tables and statements: a map from account ids to accounts. The
tables represent the map, and a call that is answered with `OK` does on the tables what it does on
the map.

## Main definitions

* `AccountService.Directory` — the map; `AccountService.Directory.step` — the calls on it.
* `AccountService.Represents` — the two tables hold the accounts of a directory.

## Main results

* `AccountService.represents_step` — a call is refused and changes nothing, or it is answered as
  the directory answers it and the tables represent the directory after the call.
-/

namespace AccountService

open Sql Dao Database Grpc

/-! ## The map -/

/-- What the directory knows of an account. -/
structure Entry where
  brokerId : String
  connectionString : String
  status : String
  password : String
  deriving DecidableEq, Repr

/-- The accounts by their ids. -/
abbrev Directory := String → Option Entry

/-- The entry that a request describes, with a password. An empty status becomes `active`, on an
update as well. -/
def Entry.ofRequest (account : TradingAccount) (password : String) : Entry where
  brokerId := account.brokerId
  connectionString := account.connectionString
  status := if account.status = "" then "active" else account.status
  password := password

/-- The account as it is shown: without the password. -/
def Entry.shown (entry : Entry) (accountId : String) : TradingAccount where
  accountId := accountId
  brokerId := entry.brokerId
  password := ""
  connectionString := entry.connectionString
  status := entry.status

/-- What an engine is given. -/
def Entry.material (entry : Entry) (accountId : String) : CredentialMaterial where
  accountId := accountId
  brokerId := entry.brokerId
  connectionString := entry.connectionString
  password := entry.password

/-- What the directory answers to a call that it does not refuse. -/
inductive Reply
  | added
  | account (account : TradingAccount)
  /-- The accounts come in no order. -/
  | accounts (accounts : Set TradingAccount)
  | updated
  | credential (credential : CredentialMaterial)

namespace Directory

/-- No accounts. -/
def empty : Directory := fun _ => none

/-- The directory with a new entry for an account. -/
def set (directory : Directory) (accountId : String) (entry : Entry) : Directory :=
  Function.update directory accountId (some entry)

/-- The accounts of the directory. -/
def accounts (directory : Directory) : Set TradingAccount :=
  { account | ∃ accountId, ∃ entry ∈ directory accountId, account = entry.shown accountId }

/-- `AddAccount` inserts an account that is not there yet. -/
def addAccount (directory : Directory) (account : TradingAccount) :
    Except ErrorCode Reply × Directory :=
  if account.accountId = "" ∨ account.password = "" then (.error .kInternalError, directory)
  else
    match directory account.accountId with
    | some _ => (.error .kSystemError, directory)
    | none =>
      (.ok .added, directory.set account.accountId (.ofRequest account account.password))

/-- `UpdateAccount` overwrites an account. An empty password stands for the old one; an empty status
does not: the account becomes active. -/
def updateAccount (directory : Directory) (account : TradingAccount) :
    Except ErrorCode Reply × Directory :=
  if account.accountId = "" then (.error .kInternalError, directory)
  else
    match directory account.accountId with
    | none => (.error .kNotFound, directory)
    | some entry =>
      let password := if account.password = "" then entry.password else account.password
      (.ok .updated, directory.set account.accountId (.ofRequest account password))

/-- `GetAccount` shows an account. -/
def getAccount (directory : Directory) (accountId : String) : Except ErrorCode Reply :=
  if accountId = "" then .error .kInternalError
  else
    match directory accountId with
    | none => .error .kNotFound
    | some entry => .ok (.account (entry.shown accountId))

/-- `GetCredential` gives the password, unless the account is disabled. -/
def getCredential (directory : Directory) (accountId engineId : String) :
    Except ErrorCode Reply :=
  if engineId = "" ∨ accountId = "" then .error .kInternalError
  else
    match directory accountId with
    | none => .error .kNotFound
    | some entry =>
      if entry.status = "disabled" then .error .kInternalError
      else .ok (.credential (entry.material accountId))

/-- A call on the directory. -/
def step (directory : Directory) : AccountCall → Except ErrorCode Reply × Directory
  | .addAccount ⟨none⟩ | .updateAccount ⟨none⟩ => (.error .kInternalError, directory)
  | .addAccount ⟨some account⟩ => directory.addAccount account
  | .updateAccount ⟨some account⟩ => directory.updateAccount account
  | .getAccount ⟨accountId⟩ => (directory.getAccount accountId, directory)
  | .listAccounts _ => (.ok (.accounts directory.accounts), directory)
  | .getCredential ⟨accountId, engineId⟩ => (directory.getCredential accountId engineId, directory)

/-- The directory as a machine. -/
def machine : Machine Directory AccountCall (Except ErrorCode Reply) where
  step call directory := directory.step call

end Directory

/-! ## Rows -/

/-- The row of `trading_account` for an entry. -/
def Entry.accountRow (entry : Entry) (accountId : String) : Row :=
  Row.ofValues [("account_id", accountId), ("broker_id", entry.brokerId),
    ("connection_string", entry.connectionString), ("status", entry.status)]

/-- The row of `account_credential` for an entry. -/
def Entry.credentialRow (entry : Entry) (accountId : String) : Row :=
  Row.ofValues [("account_id", accountId), ("credential_type", "1"), ("key_id", "stub-v1"),
    ("ciphertext", entry.password)]

/-- The two tables are different ones. -/
lemma credentialTable_ne : AccountCredential.tableName ≠ Dao.TradingAccount.tableName := by
  decide

/-- The rows of an account in `account_credential`. -/
def credentialRows (store : Store accountSchema) (accountId : String) : List Row :=
  store.select AccountCredential.tableName (accountIs accountId)

/-- The two tables hold the accounts of a directory, and nothing else. -/
structure Represents (store : Store accountSchema) (directory : Directory) : Prop where
  accounts : ∀ accountId, accountRows store accountId =
    (directory accountId).toList.map fun entry => entry.accountRow accountId
  credentials : ∀ accountId, credentialRows store accountId =
    (directory accountId).toList.map fun entry => entry.credentialRow accountId
  /-- Every row belongs to an account. -/
  owned : ∀ name, ∀ row ∈ store.rows name, row "account_id" ≠ none
  passwords : ∀ accountId, ∀ entry ∈ directory accountId, entry.password ≠ ""

/-- The row that a request describes. -/
lemma ofValues_accountValues (account : TradingAccount) (password : String) :
    Row.ofValues (accountValues account) =
      (Entry.ofRequest account password).accountRow account.accountId := rfl

/-- The password row that a request describes. -/
lemma ofValues_credentialValues (account : TradingAccount) :
    Row.ofValues (credentialValues account) =
      (Entry.ofRequest account account.password).credentialRow account.accountId := rfl

/-- The row of an entry, overwritten as a request says. -/
lemma assign_accountRow (entry : Entry) (account : TradingAccount) (password : String) :
    (entry.accountRow account.accountId).assign (accountValues account) =
      (Entry.ofRequest account password).accountRow account.accountId :=
  Row.assign_ofValues fun _ h => h

/-- The password row of an entry, overwritten as a request says. -/
lemma assign_credentialRow (entry : Entry) (account : TradingAccount) :
    (entry.credentialRow account.accountId).assign (credentialValues account) =
      (Entry.ofRequest account account.password).credentialRow account.accountId :=
  Row.assign_ofValues fun _ h => h

/-- A password row is one of the rows of its account. -/
lemma satisfies_passwordOf {row : Row} {accountId : String} :
    row.satisfies (passwordOf accountId) = true ↔
      row "account_id" = some accountId ∧ row "credential_type" = some "1" := by
  simp [Row.satisfies, passwordOf]

/-- The row of an entry is about its account. -/
lemma Entry.satisfies_credentialRow (entry : Entry) (accountId accountId' : String) :
    (entry.credentialRow accountId).satisfies (passwordOf accountId') = true ↔
      accountId = accountId' := by
  rw [satisfies_passwordOf]
  constructor
  · intro h
    exact Option.some.inj h.1
  · rintro rfl
    exact ⟨rfl, rfl⟩

/-! ## Represented directories -/

section

variable {store store' : Store accountSchema} {directory : Directory} {accountId : String}

/-- The password rows of an account, in tables that hold nothing else. -/
lemma Represents.select_passwordOf (h : Represents store directory) (accountId : String) :
    store.select AccountCredential.tableName (passwordOf accountId) =
      credentialRows store accountId := by
  refine List.filter_congr fun row hrow => ?_
  rw [Bool.eq_iff_iff, satisfies_passwordOf, satisfies_accountIs]
  refine ⟨fun hpassword => hpassword.1, fun haccount => ⟨haccount, ?_⟩⟩
  have hmem : row ∈ credentialRows store accountId :=
    List.mem_filter.mpr ⟨hrow, satisfies_accountIs.mpr haccount⟩
  rw [h.credentials, List.mem_map] at hmem
  obtain ⟨entry, -, rfl⟩ := hmem
  rfl

/-- The row of an account that the directory knows. -/
lemma Represents.entry_of_mem (h : Represents store directory) {row : Row}
    (hrow : row ∈ accountRows store accountId) :
    ∃ entry, directory accountId = some entry ∧ row = entry.accountRow accountId := by
  rw [h.accounts, List.mem_map] at hrow
  obtain ⟨entry, hentry, rfl⟩ := hrow
  exact ⟨entry, Option.mem_toList.mp hentry, rfl⟩

/-- The password row of an account that the directory knows. -/
lemma Represents.entry_of_mem_credentials (h : Represents store directory) {row : Row}
    (hrow : row ∈ store.select AccountCredential.tableName (passwordOf accountId)) :
    ∃ entry, directory accountId = some entry ∧ row = entry.credentialRow accountId := by
  rw [h.select_passwordOf, h.credentials, List.mem_map] at hrow
  obtain ⟨entry, hentry, rfl⟩ := hrow
  exact ⟨entry, Option.mem_toList.mp hentry, rfl⟩

/-- An account without rows is one that the directory does not know. -/
lemma Represents.accountRows_eq_nil (h : Represents store directory) :
    accountRows store accountId = [] ↔ directory accountId = none := by
  rw [h.accounts, List.map_eq_nil_iff, Option.toList_eq_nil_iff]

/-- An account without a password row is one that the directory does not know. -/
lemma Represents.passwordRows_eq_nil (h : Represents store directory) :
    store.select AccountCredential.tableName (passwordOf accountId) = [] ↔
      directory accountId = none := by
  rw [h.select_passwordOf, h.credentials, List.map_eq_nil_iff, Option.toList_eq_nil_iff]

end

/-- Empty tables represent the empty directory. -/
lemma represents_empty : Represents .empty Directory.empty where
  accounts _ := rfl
  credentials _ := rfl
  owned _ _ h := absurd h List.not_mem_nil
  passwords _ _ h := by cases h

/-! ## Writing calls -/

section

variable {store store₁ store₂ : Store accountSchema} {directory : Directory}
  {account : TradingAccount} {accountId : String}

/-- The password rows after an insert. -/
lemma credentialRows_insertCredential (h : store.exec (insertCredential account) = some store₁)
    (accountId : String) :
    credentialRows store₁ accountId = credentialRows store accountId ++
      if account.accountId = accountId then
        [(Entry.ofRequest account account.password).credentialRow account.accountId]
      else [] := by
  have haccountId : Row.ofValues (credentialValues account) "account_id" =
      some account.accountId := rfl
  unfold credentialRows
  rw [Store.select_insert h]
  exact congrArg _ (if_congr (satisfies_accountIs_iff haccountId) rfl rfl)

/-- The password rows after an update: those of the account are overwritten. -/
lemma credentialRows_updateCredential (h : store.exec (updateCredential account) = some store₁)
    (accountId : String) :
    credentialRows store₁ accountId = (credentialRows store accountId).map fun row =>
      if row.satisfies (passwordOf account.accountId) then row.assign (credentialValues account)
      else row := by
  refine Store.select_update h fun row hrow => ?_
  rw [satisfies_passwordOf] at hrow
  rw [Bool.eq_iff_iff, satisfies_accountIs, satisfies_accountIs, hrow.1]
  rfl

/-- Statements on the accounts leave the password rows alone. -/
lemma credentialRows_of_account {statement : Statement} (h : store.exec statement = some store₁)
    (htable : statement.table = Dao.TradingAccount.tableName) (accountId : String) :
    credentialRows store₁ accountId = credentialRows store accountId := by
  refine Store.select_exec_of_ne h ?_ _
  rw [htable]
  exact credentialTable_ne

/-- An insert of a row with an account leaves every row with an account. -/
lemma owned_insert {name : String} {values : KeyValues}
    (h : store.exec (.insert name values) = some store₁)
    (howned : ∀ name, ∀ row ∈ store.rows name, row "account_id" ≠ none)
    (hvalues : Row.ofValues values "account_id" ≠ none) :
    ∀ name, ∀ row ∈ store₁.rows name, row "account_id" ≠ none := by
  intro name' row hrow
  rw [Store.write_eq_some h] at hrow
  split at hrow
  · rcases List.mem_append.mp hrow with hrow | hrow
    · exact howned _ row hrow
    · rw [List.mem_singleton.mp hrow]
      exact hvalues
  · exact howned _ row hrow

/-- An update leaves every row with an account.

**Proof sketch.** An update assigns columns, and a column that is assigned is not removed. -/
lemma owned_update {name : String} {assignments conditions : KeyValues}
    (h : store.exec (.update name assignments conditions) = some store₁)
    (howned : ∀ name, ∀ row ∈ store.rows name, row "account_id" ≠ none) :
    ∀ name, ∀ row ∈ store₁.rows name, row "account_id" ≠ none := by
  intro name' row hrow
  rw [Store.write_eq_some h] at hrow
  split at hrow
  · obtain ⟨row, hmem, rfl⟩ := List.mem_map.mp hrow
    have hrow := howned _ row hmem
    split
    · unfold Row.assign
      intro hnone
      exact hrow (Option.or_eq_none_iff.mp hnone).2
    · exact hrow
  · exact howned _ row hrow

/-- The two inserts of `AddAccount` put the account into the directory.

**Proof sketch.** Field by field. The rows of the account are those of its inserts, since it had
none before, and the rows of the others are the old ones. -/
lemma Represents.added (h : Represents store directory) (hpassword : account.password ≠ "")
    (hfresh : directory account.accountId = none)
    (haccount : store.exec (insertAccount account) = some store₁)
    (hcredential : store₁.exec (insertCredential account) = some store₂) :
    Represents store₂
      (directory.set account.accountId (.ofRequest account account.password)) where
  accounts accountId := by
    rw [accountRows_added haccount hcredential, h.accounts]
    by_cases hid : account.accountId = accountId
    · subst hid
      rw [if_pos rfl, hfresh, Directory.set, Function.update_self]
      exact congrArg (fun row => [row]) (ofValues_accountValues account account.password)
    · rw [if_neg hid, Directory.set, Function.update_of_ne (Ne.symm hid), List.append_nil]
  credentials accountId := by
    rw [credentialRows_insertCredential hcredential, credentialRows_of_account haccount rfl,
      h.credentials]
    by_cases hid : account.accountId = accountId
    · subst hid
      rw [if_pos rfl, hfresh, Directory.set, Function.update_self]
      rfl
    · rw [if_neg hid, Directory.set, Function.update_of_ne (Ne.symm hid), List.append_nil]
  owned := owned_insert hcredential (owned_insert haccount h.owned nofun) nofun
  passwords accountId entry hentry := by
    by_cases hid : account.accountId = accountId
    · subst hid
      rw [Directory.set, Function.update_self] at hentry
      obtain rfl := Option.some.inj hentry
      exact hpassword
    · rw [Directory.set, Function.update_of_ne (Ne.symm hid)] at hentry
      exact h.passwords accountId entry hentry

/-- The password rows after `UpdateAccount`. -/
lemma credentialRows_updated {counting : Counting}
    (haccount : store.exec (updateAccountRow account) = some store₁)
    (hcredential : if account.password = "" then store₂ = store₁
      else store₁.exec (updateCredential account) = some store₂ ∧
        Affects counting (updateCredential account) store₁) (accountId : String) :
    credentialRows store₂ accountId =
      if account.password = "" then credentialRows store accountId
      else (credentialRows store accountId).map fun row =>
        if row.satisfies (passwordOf account.accountId) then row.assign (credentialValues account)
        else row := by
  rw [← credentialRows_of_account haccount rfl]
  split at hcredential
  · next hpassword => rw [if_pos hpassword, hcredential]
  · next hpassword => rw [if_neg hpassword, credentialRows_updateCredential hcredential.1]

/-- The updates of `UpdateAccount` overwrite the account in the directory.

**Proof sketch.** Field by field. The rows of the account are assigned the values of the request,
which gives the rows of the new entry; an empty password leaves the second table alone. -/
lemma Represents.updated {counting : Counting} {entry : Entry} (h : Represents store directory)
    (hentry : directory account.accountId = some entry)
    (haccount : store.exec (updateAccountRow account) = some store₁)
    (hcredential : if account.password = "" then store₂ = store₁
      else store₁.exec (updateCredential account) = some store₂ ∧
        Affects counting (updateCredential account) store₁) :
    Represents store₂ (directory.set account.accountId (.ofRequest account
      (if account.password = "" then entry.password else account.password))) where
  accounts accountId := by
    rw [accountRows_updated haccount hcredential, h.accounts]
    by_cases hid : account.accountId = accountId
    · subst hid
      rw [if_pos rfl, hentry, Directory.set, Function.update_self]
      exact congrArg (fun row => [row]) (assign_accountRow entry account _)
    · rw [if_neg hid, Directory.set, Function.update_of_ne (Ne.symm hid)]
  credentials accountId := by
    rw [credentialRows_updated haccount hcredential, h.credentials]
    by_cases hid : account.accountId = accountId
    · subst hid
      rw [hentry, Directory.set, Function.update_self]
      by_cases hpassword : account.password = ""
      · rw [if_pos hpassword, if_pos hpassword]
        rfl
      · rw [if_neg hpassword, if_neg hpassword]
        have hsat := (entry.satisfies_credentialRow account.accountId account.accountId).mpr rfl
        simp only [Option.toList_some, List.map_cons, List.map_nil, if_pos hsat,
          assign_credentialRow]
    · rw [Directory.set, Function.update_of_ne (Ne.symm hid)]
      split
      · rfl
      · rw [List.map_map]
        refine List.map_congr_left fun other _ => if_neg fun hsat => hid ?_
        exact ((other.satisfies_credentialRow accountId account.accountId).mp hsat).symm
  owned := by
    have howned := owned_update haccount h.owned
    split at hcredential
    · rw [hcredential]
      exact howned
    · exact owned_update hcredential.1 howned
  passwords accountId other hother := by
    by_cases hid : account.accountId = accountId
    · subst hid
      rw [Directory.set, Function.update_self] at hother
      obtain rfl := Option.some.inj hother
      show (if account.password = "" then entry.password else account.password) ≠ ""
      split
      · exact h.passwords account.accountId entry hentry
      · next hpassword => exact hpassword
    · rw [Directory.set, Function.update_of_ne (Ne.symm hid)] at hother
      exact h.passwords accountId other hother

end

/-! ## Answers -/

/-- The service answers what the directory answers. What a call that is refused carries besides
its status does not reach the client. -/
inductive Agrees : Status × AccountResponse → Except ErrorCode Reply → Prop
  | refused {code : ErrorCode} (response : AccountResponse) (hcode : code ≠ .kSuccess) :
      Agrees (toGrpcStatus code, response) (.error code)
  | added : Agrees (.OK, .addAccount {}) (.ok .added)
  | account (account : TradingAccount) :
      Agrees (.OK, .getAccount ⟨some account⟩) (.ok (.account account))
  | accounts {accounts : List TradingAccount} {shown : Set TradingAccount}
      (hnodup : accounts.Nodup) (hmem : ∀ account, account ∈ accounts ↔ account ∈ shown) :
      Agrees (.OK, .listAccounts ⟨accounts⟩) (.ok (.accounts shown))
  | updated : Agrees (.OK, .updateAccount {}) (.ok .updated)
  | credential (credential : CredentialMaterial) :
      Agrees (.OK, .getCredential ⟨some credential⟩) (.ok (.credential credential))

section

variable {store store' : Store accountSchema} {directory : Directory}

/-- The account that a row is shown as. -/
def shownRow (row : Row) : TradingAccount :=
  { toTradingAccountProto (.ofRow row) .unset with password := "" }

/-- The row of an entry is shown as the entry. -/
lemma shownRow_accountRow (entry : Entry) (accountId : String) :
    shownRow (entry.accountRow accountId) = entry.shown accountId := rfl

/-- Every row is the row of an entry. -/
lemma Represents.entry_of_row (h : Represents store directory) {row : Row}
    (hrow : row ∈ store.rows Dao.TradingAccount.tableName) :
    ∃ accountId entry, directory accountId = some entry ∧ row = entry.accountRow accountId := by
  obtain ⟨accountId, haccountId⟩ := Option.ne_none_iff_exists'.mp (h.owned _ row hrow)
  have hmem : row ∈ accountRows store accountId :=
    List.mem_filter.mpr ⟨hrow, satisfies_accountIs.mpr haccountId⟩
  obtain ⟨entry, hentry, hrow⟩ := h.entry_of_mem hmem
  exact ⟨accountId, entry, hentry, hrow⟩

/-- The accounts that are shown are those of the directory. -/
lemma Represents.mem_accounts (h : Represents store directory) (account : TradingAccount) :
    (∃ row ∈ store.rows Dao.TradingAccount.tableName, shownRow row = account) ↔
      account ∈ directory.accounts := by
  constructor
  · rintro ⟨row, hrow, rfl⟩
    obtain ⟨accountId, entry, hentry, rfl⟩ := h.entry_of_row hrow
    exact ⟨accountId, entry, hentry, rfl⟩
  · rintro ⟨accountId, entry, hentry, rfl⟩
    have hmem : entry.accountRow accountId ∈ accountRows store accountId := by
      rw [h.accounts, hentry]
      exact List.mem_singleton_self _
    exact ⟨_, (List.mem_filter.mp hmem).1, rfl⟩

/-- Two rows are not shown as one account. -/
lemma Represents.shownRow_injective (h : Represents store directory) {row row' : Row}
    (hrow : row ∈ store.rows Dao.TradingAccount.tableName)
    (hrow' : row' ∈ store.rows Dao.TradingAccount.tableName)
    (hshown : shownRow row = shownRow row') : row = row' := by
  obtain ⟨accountId, entry, -, rfl⟩ := h.entry_of_row hrow
  obtain ⟨accountId', entry', -, rfl⟩ := h.entry_of_row hrow'
  rw [shownRow_accountRow, shownRow_accountRow] at hshown
  have haccountId : accountId = accountId' := congrArg TradingAccount.accountId hshown
  have hbrokerId : entry.brokerId = entry'.brokerId := congrArg TradingAccount.brokerId hshown
  have hconnection : entry.connectionString = entry'.connectionString :=
    congrArg TradingAccount.connectionString hshown
  have hstatus : entry.status = entry'.status := congrArg TradingAccount.status hshown
  unfold Entry.accountRow
  rw [haccountId, hbrokerId, hconnection, hstatus]

/-- The answer of `ListAccounts`.

**Proof sketch.** The rows have distinct keys, and different rows show different accounts. What they
show are the accounts of the directory. -/
lemma Represents.listed (h : Represents store directory) {rows : List Row}
    (hrows : rows.Perm (store.select Dao.TradingAccount.tableName [])) :
    Agrees (.OK, .listAccounts (ListAccountsHandler.buildResponse ⟨rows.map .ofRow⟩ ⟨[]⟩))
      (.ok (.accounts directory.accounts)) := by
  have hperm : rows.Perm (store.rows Dao.TradingAccount.tableName) := by
    rw [← List.filter_true (store.rows Dao.TradingAccount.tableName)]
    exact hrows
  have hshown : ListAccountsHandler.buildResponse ⟨rows.map .ofRow⟩ ⟨[]⟩ =
      ⟨rows.map shownRow⟩ := by
    show ListAccountsResponse.mk ([] ++ (rows.map _).map _) = _
    rw [List.nil_append, List.map_map]
    rfl
  rw [hshown]
  refine .accounts ?_ fun account => ?_
  · have hkeyed := store.keyed _ tradingAccountTable tradingAccountTable_mem
    have hnodup : rows.Nodup := hperm.nodup_iff.mpr (List.Nodup.of_map _ hkeyed)
    refine List.Nodup.map_on (fun row hrow row' hrow' => ?_) hnodup
    exact h.shownRow_injective (hperm.mem_iff.mp hrow) (hperm.mem_iff.mp hrow')
  · rw [← h.mem_accounts, List.mem_map]
    simp only [hperm.mem_iff]

/-! ## Steps -/

/-- What a call does to the tables, and to the directory that they represent: it is refused and
changes nothing, or it is answered as the directory answers it. -/
inductive DirectoryStep (store : Store accountSchema) (directory : Directory) (call : AccountCall)
    (answer : Status × AccountResponse) (store' : Store accountSchema) : Prop
  | refused (hstatus : answer.1 ≠ .OK) (hstore : store' = store)
  | answered (hstatus : answer.1 = .OK) (hagrees : Agrees answer (directory.step call).1)
      (hrepresents : Represents store' (directory.step call).2)

/-- A call that is not refused is answered as the directory answers it.

**Proof sketch.** By cases on what the call did to the tables. The rows that it read or wrote are
those of an entry of the directory, or of no entry. -/
theorem represents_step {faults : Prop} {counting : Counting} {call : AccountCall}
    {answer : Status × AccountResponse} (h : Represents store directory)
    (hstep : AccountStep faults counting store call answer store') :
    DirectoryStep store directory call answer store' := by
  cases hstep with
  | refused response hcode hrefused =>
    exact .refused (fun hOK => hcode (toGrpcStatus_eq_OK.mp hOK)) rfl
  | @added account store₁ _ hvalid hfresh haccount hcredential =>
    have hnone : directory account.accountId = none := h.accountRows_eq_nil.mp hfresh
    have hvalid' : ¬(account.accountId = "" ∨ account.password = "") := not_or.mpr hvalid
    have hadd : directory.step (.addAccount ⟨some account⟩) =
        (.ok .added, directory.set account.accountId (.ofRequest account account.password)) := by
      simp only [Directory.step, Directory.addAccount, if_neg hvalid', hnone]
    refine .answered rfl ?_ ?_
    · rw [hadd]
      exact .added
    · rw [hadd]
      exact h.added hvalid.2 hnone haccount hcredential
  | @got accountId row hvalid hrow =>
    obtain ⟨entry, hentry, rfl⟩ := h.entry_of_mem hrow
    have hvalid' : accountId ≠ "" := hvalid
    have hget : directory.step (.getAccount ⟨accountId⟩) =
        (.ok (.account (entry.shown accountId)), directory) := by
      simp only [Directory.step, Directory.getAccount, if_neg hvalid', hentry]
    rw [← shownRow_accountRow] at hget
    refine .answered rfl ?_ ?_
    · rw [hget]
      exact .account _
    · rw [hget]
      exact h
  | listed hrows => exact .answered rfl (h.listed hrows) h
  | @updated account store₁ _ hvalid haccount haffects hcredential =>
    have hvalid' : account.accountId ≠ "" := hvalid
    obtain ⟨row, hrow⟩ := List.exists_mem_of_ne_nil _ (accountRows_ne_nil_of_affects haffects)
    obtain ⟨entry, hentry, -⟩ := h.entry_of_mem hrow
    have hupdate : directory.step (.updateAccount ⟨some account⟩) =
        (.ok .updated, directory.set account.accountId (.ofRequest account
          (if account.password = "" then entry.password else account.password))) := by
      simp only [Directory.step, Directory.updateAccount, if_neg hvalid', hentry]
    refine .answered rfl ?_ ?_
    · rw [hupdate]
      exact .updated
    · rw [hupdate]
      exact h.updated hentry haccount hcredential
  | @gave accountId engineId password row credential hvalid hrow hstatus hcredential hpassword =>
    obtain ⟨entry, hentry, rfl⟩ := h.entry_of_mem hrow
    obtain ⟨entry', hentry', rfl⟩ := h.entry_of_mem_credentials hcredential
    obtain rfl := Option.some.inj (hentry.symm.trans hentry')
    obtain rfl : entry.password = password := Option.some.inj hpassword
    have hvalid' : ¬(engineId = "" ∨ accountId = "") := not_or.mpr hvalid
    have henabled : entry.status ≠ "disabled" := fun h => hstatus (congrArg some h)
    have hgive : directory.step (.getCredential ⟨accountId, engineId⟩) =
        (.ok (.credential (entry.material accountId)), directory) := by
      simp only [Directory.step, Directory.getCredential, if_neg hvalid', hentry,
        if_neg henabled]
    refine .answered rfl ?_ ?_
    · rw [hgive]
      exact .credential (entry.material accountId)
    · rw [hgive]
      exact h

end

end AccountService
