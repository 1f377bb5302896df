import QTradeService.AccountService.CredentialSnapshot
import QTradeService.Dao.InStep
import QTradeService.Library.Machine

set_option relaxedAutoImplicit false
set_option autoImplicit false

/-!
# Where passwords flow

Two runs of the service with the same requests, but for passwords that are not empty in either
run. All calls to the database are made in step, and what the two tables hold differs in
ciphertexts only. So do the answers: in the passwords that `GetCredential` gives.

## Main definitions

* `AccountService.passwordSecrecy` — ciphertexts that are not empty cannot be told apart.
* `AccountService.SameButPasswords` — the calls of two runs.
* `AccountService.SameButPassword` — the answers of two runs.

## Main results

* `AccountService.serve_inStep` — one call.
* `AccountService.passwords_secret` — every run.
* `AccountService.repeated_password_revealed` — a database that counts changed rows only.
-/

namespace AccountService

open Sql Dao Database Grpc Program

/-! ## What is secret -/

/-- Ciphertexts that are not empty are alike; all other texts can be told apart. -/
def passwordSecrecy : Secrecy where
  alike table column text text' := text = text' ∨
    table = AccountCredential.tableName ∧ column = "ciphertext" ∧ text ≠ "" ∧ text' ≠ ""
  refl _ _ _ := .inl rfl

/-- Nothing in `trading_account` is secret. -/
lemma public_tradingAccount (column : String) :
    passwordSecrecy.Public Dao.TradingAccount.tableName column := by
  rintro text text' (h | ⟨htable, -⟩)
  · exact h
  · exact absurd htable (by decide)

/-- Nothing but the ciphertexts is secret. -/
lemma public_of_ne {table column : String} (h : column ≠ "ciphertext") :
    passwordSecrecy.Public table column := by
  rintro text text' (htext | ⟨-, hcolumn, -⟩)
  · exact htext
  · exact absurd hcolumn h

/-- No primary key is secret.

**Proof sketch.** The only secret column is the ciphertext, and it belongs to neither key. -/
lemma public_keys : ∀ name, ∀ table ∈ accountSchema name, ∀ column ∈ table.primaryKey,
    passwordSecrecy.Public name column := by
  intro name table htable column hcolumn
  apply public_of_ne
  rintro rfl
  unfold accountSchema at htable
  split at htable
  · obtain rfl := Option.some.inj htable
    simp [tradingAccountTable] at hcolumn
  · split at htable
    · obtain rfl := Option.some.inj htable
      simp [accountCredentialTable] at hcolumn
    · cases htable

/-- The calls of two runs of the service in step. -/
abbrev accountInStep : Coupling Call.Answer Stage := inStep accountSchema passwordSecrecy

/-! ## The tables in two runs -/

/-- The records of a selection in two runs. -/
lemma select_inStep {Record : Type} {related : List Record → List Record → Prop} {name : String}
    {stage : Stage} {result result' : Result (List ResultRow)} {build : ResultRow → Record}
    (h : ResultsInStep (RowsInStep accountSchema passwordSecrecy name) result result')
    (hbuild : ∀ results results', RowsInStep accountSchema passwordSecrecy name results results' →
      related (results.map build) (results'.map build)) (message message' : String) :
    (match result.errorCode, result.data with
      | .kSuccess, some rows => return ⟨.kSuccess, "", some (rows.map build)⟩
      | errorCode, _ => return .void errorCode message : Db (Result (List Record))).Coupled
    (match result'.errorCode, result'.data with
      | .kSuccess, some rows => return ⟨.kSuccess, "", some (rows.map build)⟩
      | errorCode, _ => return .void errorCode message') accountInStep stage
      fun result result' stage' => ResultsInStep related result result' ∧ stage' = stage := by
  obtain ⟨code, _, data⟩ := result
  obtain ⟨code', _, data'⟩ := result'
  obtain rfl : code = code' := h.errorCode
  have hdata : Option.Rel _ data data' := h.data
  cases hdata with
  | none => cases code <;> exact .pure ⟨.void _ _ _, rfl⟩
  | some hrows =>
    cases code with
    | kSuccess => exact .pure ⟨.success (hbuild _ _ hrows) _ _, rfl⟩
    | _ => exact .pure ⟨.void _ _ _, rfl⟩

/-- Nothing in `trading_account` tells the runs apart. -/
lemma records_eq (results results' : List ResultRow)
    (h : RowsInStep accountSchema passwordSecrecy Dao.TradingAccount.tableName results results') :
    results.map buildTradingAccountRecord = results'.map buildTradingAccountRecord := by
  obtain ⟨rows, rows', hrows, hshows, hshows'⟩ := h _ tradingAccountTable_mem
  obtain rfl := Secrecy.rows_eq_of_public hrows public_tradingAccount
  rw [map_buildTradingAccountRecord hshows, map_buildTradingAccountRecord hshows']

/-- `TradingAccount::Select` in two runs. -/
lemma selectAccounts_inStep {stage : Stage} (hstage : stage ≠ .broken)
    (whereConditions : TradingAccountRecord) :
    (Dao.TradingAccount.select whereConditions).Coupled (Dao.TradingAccount.select whereConditions)
      accountInStep stage fun result result' stage' =>
        ResultsInStep Eq result result' ∧ stage' = stage := by
  refine (selectRows_inStep accountSchema_wordy tradingAccountTable_mem hstage
    (fits_buildTradingAccountValues whereConditions)
    (fun condition _ => public_tradingAccount condition.1)
    (.inl public_tradingAccount)).bind fun result result' stage' h => ?_
  obtain ⟨h, rfl⟩ := h
  exact select_inStep h records_eq "" ""

/-- `TradingAccount::Count` in two runs. -/
lemma countAccounts_inStep {stage : Stage} (hstage : stage ≠ .broken)
    (whereConditions : TradingAccountRecord) :
    (Dao.TradingAccount.count whereConditions).Coupled (Dao.TradingAccount.count whereConditions)
      accountInStep stage fun result result' stage' =>
        ResultsInStep Eq result result' ∧ stage' = stage :=
  countRows_inStep accountSchema_wordy tradingAccountTable_mem hstage
    (fits_buildTradingAccountValues whereConditions)
    fun condition _ => public_tradingAccount condition.1

/-- Records of `account_credential` in two runs. -/
structure CredentialsAlike (record record' : AccountCredentialRecord) : Prop where
  keyId : record.keyId = record'.keyId
  ciphertext : Option.Rel (passwordSecrecy.alike AccountCredential.tableName "ciphertext")
    record.ciphertext record'.ciphertext

/-- The ciphertexts in `account_credential` may differ.

**Proof sketch.** By induction on the rows, which agree in the public columns and differ as secrets
may in the other. -/
lemma records_alike (results results' : List ResultRow)
    (h : RowsInStep accountSchema passwordSecrecy AccountCredential.tableName results results') :
    List.Forall₂ CredentialsAlike (results.map buildAccountCredentialRecord)
      (results'.map buildAccountCredentialRecord) := by
  obtain ⟨rows, rows', hrows, hshows, hshows'⟩ := h _ accountCredentialTable_mem
  rw [List.forall₂_map_left_iff, List.forall₂_map_right_iff]
  clear h
  induction hrows generalizing results results' with
  | nil =>
    cases hshows
    cases hshows'
    exact .nil
  | cons hrow _ ih =>
    cases hshows with
    | cons hshow hshows =>
      cases hshows' with
      | cons hshow' hshows' =>
        have hreads := buildAccountCredentialRecord_of_shows hshow
        have hreads' := buildAccountCredentialRecord_of_shows hshow'
        refine .cons ⟨?_, ?_⟩ (ih _ _ hshows hshows')
        · rw [hreads.keyId, hreads'.keyId]
          exact hrow.eq_of_public (public_of_ne (by decide))
        · rw [hreads.ciphertext, hreads'.ciphertext]
          exact hrow "ciphertext"

/-- The condition for the password of an account is about nothing secret. -/
lemma open_passwordConditions (accountId : Option String) :
    passwordSecrecy.Open AccountCredential.tableName (conditionsOf
      (buildAccountCredentialValues { accountId, credentialType := some .kPassword })) := by
  intro condition hcondition
  have hmem := (List.filter_sublist.subset hcondition)
  rw [buildAccountCredentialValues_eq] at hmem
  have hcolumn := mem_givenFields.mp hmem
  apply public_of_ne
  intro heq
  rw [heq] at hcolumn
  simp at hcolumn

/-- `AccountCredential::Select` of a password in two runs.

**Proof sketch.** The conditions name the account and the type, both of them public columns, so that
the two queries are the same. -/
lemma selectPasswords_inStep {stage : Stage} (hstage : stage ≠ .broken) {accountId : String}
    (haccountId : accountId ≠ "") :
    (AccountCredential.select
        { accountId := some accountId, credentialType := some .kPassword }).Coupled
      (AccountCredential.select
        { accountId := some accountId, credentialType := some .kPassword }) accountInStep stage
      fun result result' stage' =>
        ResultsInStep (List.Forall₂ CredentialsAlike) result result' ∧ stage' = stage := by
  have hlisted : Listed accountSchema passwordSecrecy AccountCredential.tableName
      (conditionsOf (buildAccountCredentialValues
        { accountId := some accountId, credentialType := some .kPassword })) := by
    rw [conditionsOf_password haccountId]
    refine .inr fun table htable column hcolumn => ?_
    obtain rfl : table = accountCredentialTable :=
      Option.some.inj (htable.symm.trans accountCredentialTable_mem)
    exact hcolumn
  refine (selectRows_inStep accountSchema_wordy accountCredentialTable_mem hstage
    (fits_buildAccountCredentialValues
      { accountId := some accountId, credentialType := some .kPassword })
    (open_passwordConditions (some accountId)) hlisted).bind fun result result' stage' h => ?_
  obtain ⟨h, rfl⟩ := h
  exact select_inStep h records_alike result.errorMessage result'.errorMessage

/-! ## Transactions in two runs -/

/-- The business of two runs that write: it ends alike, and no transaction is left open. -/
def Ended (result result' : Result Unit) (stage : Stage) : Prop :=
  result.errorCode = result'.errorCode ∧ stage = .idle

/-- Give a transaction up. -/
lemma rollbackAndFail_inStep {errorCode errorCode' : ErrorCode} (hcode : errorCode = errorCode')
    (message message' : String) (stage : Stage) :
    (rollbackAndFail errorCode message).Coupled (rollbackAndFail errorCode' message') accountInStep
      stage Ended := by
  refine Coupled.bind (Coupled.request (.rollbackTransaction stage) fun _ _ _ h => h)
    fun _ _ stage' h => ?_
  cases h
  exact .pure ⟨hcode, rfl⟩

/-- Commit a transaction. -/
lemma commit_inStep : commit.Coupled commit accountInStep .writing Ended := by
  refine Coupled.bind (Coupled.request .commitTransaction fun _ _ _ h => h) fun _ _ stage' h => ?_
  cases h with
  | committed => exact .pure ⟨rfl, rfl⟩
  | notCommitted => exact rollbackAndFail_inStep rfl _ _ .broken

/-- Business in a transaction.

**Proof sketch.** The connection and `BEGIN` are the same in both runs; if one of them fails it
fails in both. -/
lemma withTransaction_inStep {business business' : Db (Result Unit)}
    (h : business.Coupled business' accountInStep .writing Ended) :
    (withTransaction business).Coupled (withTransaction business') accountInStep .idle Ended := by
  refine Coupled.bind (Coupled.request (.acquire .idle _) fun _ _ _ h => h)
    fun acquired acquired' stage' hacquired => ?_
  cases hacquired
  cases acquired with
  | false => exact .pure ⟨rfl, rfl⟩
  | true =>
    refine Coupled.bind (Coupled.request .beginTransaction fun _ _ _ h => h)
      fun _ _ stage' hbegun => ?_
    cases hbegun with
    | notBegun => exact .pure ⟨rfl, rfl⟩
    | begun => exact h

/-- A statement that failed in the transaction gives it up; otherwise the business goes on. -/
lemma written_inStep {result result' : Result ℤ} {stage : Stage}
    (h : WrittenInStep result result' stage) {rest rest' : Db (Result Unit)}
    (hrest : ∀ _ : ZeroTogether (result.data.getD 0) (result'.data.getD 0),
      rest.Coupled rest' accountInStep .writing Ended) :
    (if result.errorCode ≠ .kSuccess then rollbackAndFail result.errorCode result.errorMessage
      else rest).Coupled
    (if result'.errorCode ≠ .kSuccess then rollbackAndFail result'.errorCode result'.errorMessage
      else rest') accountInStep stage Ended := by
  obtain ⟨h, hstage⟩ := h
  rw [← h.errorCode]
  by_cases hcode : result.errorCode = .kSuccess
  · rw [if_neg (not_not.mpr hcode), if_neg (not_not.mpr hcode), hstage hcode]
    exact hrest (h.getD Iff.rfl)
  · rw [if_pos hcode, if_pos hcode]
    exact rollbackAndFail_inStep rfl _ _ stage

/-- A statement that affected no row gives the transaction up; otherwise the business goes on. -/
lemma affected_inStep {affected affected' : ℤ} (hzero : ZeroTogether affected affected')
    (errorCode : ErrorCode) (message : String) {rest rest' : Db (Result Unit)}
    (hrest : rest.Coupled rest' accountInStep .writing Ended) :
    (if affected = 0 then rollbackAndFail errorCode message else rest).Coupled
      (if affected' = 0 then rollbackAndFail errorCode message else rest') accountInStep .writing
      Ended := by
  by_cases haffected : affected = 0
  · rw [if_pos haffected, if_pos (hzero.mp haffected)]
    exact rollbackAndFail_inStep rfl message message .writing
  · rw [if_neg haffected, if_neg fun hnone => haffected (hzero.mpr hnone)]
    exact hrest

/-! ## `AddAccount` in two runs -/

/-- The values of an account are the same in both runs. -/
lemma accountValues_inStep (record : TradingAccountRecord)
    (hrecord : buildTradingAccountValues record ≠ []) :
    ValuesInStep passwordSecrecy Dao.TradingAccount.tableName tradingAccountTable
      (buildTradingAccountValues record) (buildTradingAccountValues record) where
  fits := fits_buildTradingAccountValues record
  fits' := fits_buildTradingAccountValues record
  alike := .refl _
  ne_nil := hrecord

/-- The values of a password row. -/
lemma credentialValues_inStep (accountId keyId : String) {password password' : String}
    (hpassword : password ≠ "") (hpassword' : password' ≠ "") :
    ValuesInStep passwordSecrecy AccountCredential.tableName accountCredentialTable
      (buildAccountCredentialValues (credentialRow (some accountId) keyId password))
      (buildAccountCredentialValues (credentialRow (some accountId) keyId password')) where
  fits := fits_buildAccountCredentialValues _
  fits' := fits_buildAccountCredentialValues _
  alike := by
    refine .cons ⟨rfl, .inl rfl⟩ (.cons ⟨rfl, .inl rfl⟩ (.cons ⟨rfl, .inl rfl⟩
      (.cons ⟨rfl, .inr ⟨rfl, rfl, hpassword, hpassword'⟩⟩ .nil)))
  ne_nil := nofun

section

variable {account : TradingAccount} {password password' : String} (hpassword : password ≠ "")
  (hpassword' : password' ≠ "")

include hpassword hpassword'

/-- The two inserts of `AddAccount`. -/
lemma insertRows_inStep :
    (AddAccountHandler.insertRows ⟨password, toTradingAccountRecord account⟩ "stub-v1"
        password).Coupled
      (AddAccountHandler.insertRows ⟨password', toTradingAccountRecord account⟩ "stub-v1" password')
      accountInStep .writing Ended := by
  unfold AddAccountHandler.insertRows
  refine (insertRecords_inStep accountSchema_wordy tradingAccountTable_mem
    (accountValues_inStep (toTradingAccountRecord account) nofun)
    (complete_accountValues account)).bind fun result result' stage h => ?_
  refine written_inStep h fun _ => ?_
  refine (insertRecords_inStep accountSchema_wordy accountCredentialTable_mem
    (credentialValues_inStep account.accountId "stub-v1" hpassword hpassword')
    (complete_credentialValues { account with password })).bind fun result result' stage h => ?_
  exact written_inStep h fun _ => commit_inStep

/-- The business of `AddAccount`.

**Proof sketch.** Both runs count the same rows. They refuse together, or insert what differs in the
password only. -/
lemma addRows_inStep :
    (AddAccountHandler.addRows ⟨password, toTradingAccountRecord account⟩).Coupled
      (AddAccountHandler.addRows ⟨password', toTradingAccountRecord account⟩) accountInStep
      .writing Ended := by
  unfold AddAccountHandler.addRows
  refine (countAccounts_inStep (by decide) _).bind fun existing existing' stage h => ?_
  obtain ⟨h, rfl⟩ := h
  rw [← h.errorCode, ← h.data_eq]
  by_cases hexisting : existing.errorCode = .kSuccess
  · rw [if_neg (not_not.mpr hexisting), if_neg (not_not.mpr hexisting)]
    by_cases hcount : 0 < existing.data.getD 0
    · rw [if_pos hcount, if_pos hcount]
      exact rollbackAndFail_inStep rfl _ _ _
    · rw [if_neg hcount, if_neg hcount]
      have hencrypt {password : String} (h : password ≠ "") :
          encryptCredential password = some ("stub-v1", password) := if_neg h
      simp only [hencrypt hpassword, hencrypt hpassword']
      exact insertRows_inStep hpassword hpassword'
  · rw [if_pos hexisting, if_pos hexisting]
    exact rollbackAndFail_inStep rfl _ _ _

/-! ## `UpdateAccount` in two runs -/

/-- The second update of `UpdateAccount`.

**Proof sketch.** Both runs find the same number of records. They refuse together, or update with
two ciphertexts and count alike. -/
lemma updateCredential_inStep (haccountId : account.accountId ≠ "")
    {updatePassword updatePassword' : Bool} :
    (UpdateAccountHandler.updateCredential
        ⟨updatePassword, password, toTradingAccountRecord account⟩).Coupled
      (UpdateAccountHandler.updateCredential
        ⟨updatePassword', password', toTradingAccountRecord account⟩) accountInStep .writing
      Ended := by
  unfold UpdateAccountHandler.updateCredential
  have hencrypt {password : String} (h : password ≠ "") :
      encryptCredential password = some ("stub-v1", password) := if_neg h
  simp only [hencrypt hpassword, hencrypt hpassword']
  refine (selectPasswords_inStep (by decide) haccountId).bind fun existing existing' stage h => ?_
  obtain ⟨h, rfl⟩ := h
  have hempty : (existing.data.getD []).isEmpty = (existing'.data.getD []).isEmpty := by
    have hrecords := h.getD .nil
    rw [Bool.eq_iff_iff, List.isEmpty_iff_length_eq_zero, List.isEmpty_iff_length_eq_zero,
      hrecords.length_eq]
  rw [← h.errorCode, ← hempty]
  split
  · exact rollbackAndFail_inStep rfl _ _ _
  · refine (updateRecords_inStep accountSchema_wordy accountCredentialTable_mem
      (credentialValues_inStep account.accountId "stub-v1" hpassword hpassword')
      (fits_buildAccountCredentialValues
        { accountId := some account.accountId, credentialType := some .kPassword }) nofun
      (open_passwordConditions (some account.accountId))).bind fun result result' stage h => ?_
    exact written_inStep h fun hzero => affected_inStep hzero _ _ commit_inStep

end

/-- The business of `UpdateAccount`, with passwords that are the same or not empty.

**Proof sketch.** The first update is the same. Either both passwords are empty, and both runs
commit, or both are given and the second update follows. -/
lemma updateRows_inStep {account : TradingAccount} (haccountId : account.accountId ≠ "")
    {password password' : String}
    (hpasswords : password = password' ∨ password ≠ "" ∧ password' ≠ "") :
    (UpdateAccountHandler.updateRows
        ⟨password ≠ "", password, toTradingAccountRecord account⟩).Coupled
      (UpdateAccountHandler.updateRows
        ⟨password' ≠ "", password', toTradingAccountRecord account⟩) accountInStep .writing
      Ended := by
  unfold UpdateAccountHandler.updateRows
  refine (updateRecords_inStep accountSchema_wordy tradingAccountTable_mem
    (accountValues_inStep (toTradingAccountRecord account) nofun)
    (fits_buildTradingAccountValues { accountId := some account.accountId }) nofun
    (fun condition _ => public_tradingAccount condition.1)).bind fun result result' stage h => ?_
  refine written_inStep h fun hzero => affected_inStep hzero _ _ ?_
  by_cases hempty : password = ""
  · have hempty' : password' = "" := by
      rcases hpasswords with hsame | ⟨hpassword, -⟩
      · exact hsame.symm.trans hempty
      · exact absurd hempty hpassword
    rw [if_neg (by simpa using hempty), if_neg (by simpa using hempty')]
    exact commit_inStep
  · have hempty' : password' ≠ "" := by
      rcases hpasswords with rfl | ⟨-, hpassword'⟩
      · exact hempty
      · exact hpassword'
    rw [if_pos (by simpa using hempty), if_pos (by simpa using hempty')]
    exact updateCredential_inStep hempty hempty' haccountId

/-! ## Reading calls in two runs -/

/-- The business of two runs that only ask: it ends alike, with data that are related. -/
def ReadInStep {ServerData : Type} (related : ServerData → ServerData → Prop)
    (answer answer' : Result Unit × ServerData) (stage : Stage) : Prop :=
  answer.1.errorCode = answer'.1.errorCode ∧ related answer.2 answer'.2 ∧ stage = .idle

/-- Business that reads fails without a connection, and goes on with one. -/
lemma acquired_inStep {ServerData : Type} {related : ServerData → ServerData → Prop}
    {failure : Result Unit × ServerData} {rest : Db (Result Unit × ServerData)}
    (hfailure : related failure.2 failure.2)
    (hrest : rest.Coupled rest accountInStep .idle (ReadInStep related)) :
    (do
      if !(← acquire kAccountDatabaseName) then
        return failure
      rest : Db _).Coupled
    (do
      if !(← acquire kAccountDatabaseName) then
        return failure
      rest) accountInStep .idle (ReadInStep related) := by
  refine Coupled.bind (Coupled.request (.acquire .idle _) fun _ _ _ h => h)
    fun acquired _ stage' hacquired => ?_
  cases hacquired
  cases acquired with
  | false => exact .pure ⟨rfl, hfailure, rfl⟩
  | true => exact hrest

/-- The business of `GetAccount`. -/
lemma getAccount_inStep (serverData : GetAccountServerData) :
    (GetAccountHandler.executeBusiness serverData).Coupled
      (GetAccountHandler.executeBusiness serverData) accountInStep .idle (ReadInStep Eq) := by
  refine acquired_inStep rfl ?_
  refine (selectAccounts_inStep (by decide) _).bind fun result result' stage h => ?_
  obtain ⟨h, rfl⟩ := h
  rw [← h.errorCode, ← h.data_eq]
  split
  · exact .pure ⟨rfl, rfl, rfl⟩
  · split <;> exact .pure ⟨rfl, rfl, rfl⟩

/-- The business of `ListAccounts`. -/
lemma listAccounts_inStep (serverData : ListAccountsServerData) :
    (ListAccountsHandler.executeBusiness serverData).Coupled
      (ListAccountsHandler.executeBusiness serverData) accountInStep .idle (ReadInStep Eq) := by
  refine acquired_inStep rfl ?_
  refine (selectAccounts_inStep (by decide) _).bind fun result result' stage h => ?_
  obtain ⟨h, rfl⟩ := h
  rw [← h.errorCode, ← h.data_eq]
  split <;> exact .pure ⟨rfl, rfl, rfl⟩

/-- Data of `GetCredential` that differ in the password. -/
def OtherPassword (serverData serverData' : GetCredentialServerData) : Prop :=
  serverData' = { serverData with password := serverData'.password }

/-- A ciphertext is decrypted in both runs, or in none. -/
lemma decryptCredential_inStep (keyId : String) {ciphertext ciphertext' : String}
    (h : passwordSecrecy.alike AccountCredential.tableName "ciphertext" ciphertext ciphertext') :
    (decryptCredential keyId ciphertext).isSome = (decryptCredential keyId ciphertext').isSome := by
  rcases h with rfl | ⟨-, -, hciphertext, hciphertext'⟩
  · rfl
  · unfold decryptCredential
    by_cases hkeyId : keyId = ""
    · rw [if_pos (.inl hkeyId), if_pos (.inl hkeyId)]
    · rw [if_neg (not_or.mpr ⟨hkeyId, hciphertext⟩), if_neg (not_or.mpr ⟨hkeyId, hciphertext'⟩)]
      rfl

/-- The second half of the business of `GetCredential`.

**Proof sketch.** Both runs see the same codes and key ids. The ciphertexts are alike, so that
decrypting fails in both runs or in none. -/
lemma readPassword_inStep {serverData : GetCredentialServerData}
    (haccountId : serverData.accountId ≠ "") :
    (GetCredentialHandler.readPassword serverData).Coupled
      (GetCredentialHandler.readPassword serverData) accountInStep .idle
      (ReadInStep OtherPassword) := by
  refine (selectPasswords_inStep (by decide) haccountId).bind fun result result' stage h => ?_
  obtain ⟨h, rfl⟩ := h
  rw [← h.errorCode]
  split
  · exact .pure ⟨rfl, rfl, rfl⟩
  · have hrecords : List.Forall₂ CredentialsAlike (result.data.getD []) (result'.data.getD []) :=
      h.getD .nil
    generalize result.data.getD [] = records at hrecords
    generalize result'.data.getD [] = records' at hrecords
    cases hrecords with
    | nil => exact .pure ⟨rfl, rfl, rfl⟩
    | @cons record record' _ _ hrecord _ =>
      obtain ⟨_, keyId, _, ciphertext⟩ := record
      obtain ⟨_, keyId', _, ciphertext'⟩ := record'
      obtain rfl : keyId = keyId' := hrecord.keyId
      have hciphertext : Option.Rel _ ciphertext ciphertext' := hrecord.ciphertext
      cases keyId with
      | none => exact .pure ⟨rfl, rfl, rfl⟩
      | some keyId =>
        cases hciphertext with
        | none => exact .pure ⟨rfl, rfl, rfl⟩
        | @some ciphertext ciphertext' halike =>
          have hdecrypt := decryptCredential_inStep keyId halike
          dsimp only
          generalize decryptCredential keyId ciphertext = decrypted at hdecrypt ⊢
          generalize decryptCredential keyId ciphertext' = decrypted' at hdecrypt ⊢
          cases decrypted with
          | none =>
            cases decrypted' with
            | none => exact .pure ⟨rfl, rfl, rfl⟩
            | some password' => cases hdecrypt
          | some password =>
            cases decrypted' with
            | none => cases hdecrypt
            | some password' => exact .pure ⟨rfl, rfl, rfl⟩

/-- The business of `GetCredential`.

**Proof sketch.** The account is public, so that both runs refuse together, or go on to the
password. -/
lemma getCredential_inStep {serverData : GetCredentialServerData}
    (haccountId : serverData.accountId ≠ "") :
    (GetCredentialHandler.executeBusiness serverData).Coupled
      (GetCredentialHandler.executeBusiness serverData) accountInStep .idle
      (ReadInStep OtherPassword) := by
  refine acquired_inStep rfl ?_
  refine (selectAccounts_inStep (by decide) _).bind fun result result' stage h => ?_
  obtain ⟨h, rfl⟩ := h
  rw [← h.errorCode, ← h.data_eq]
  split
  · exact .pure ⟨rfl, rfl, rfl⟩
  · split
    · exact .pure ⟨rfl, rfl, rfl⟩
    · split
      · exact .pure ⟨rfl, rfl, rfl⟩
      · exact readPassword_inStep haccountId

/-! ## Calls in two runs -/

/-- The same call in two runs, with passwords that are not empty in either. -/
inductive SameButPasswords : AccountCall → AccountCall → Prop
  | same (call : AccountCall) : SameButPasswords call call
  | addAccount (account : TradingAccount) {password password' : String} (hpassword : password ≠ "")
      (hpassword' : password' ≠ "") :
      SameButPasswords (.addAccount ⟨some { account with password }⟩)
        (.addAccount ⟨some { account with password := password' }⟩)
  | updateAccount (account : TradingAccount) {password password' : String}
      (hpassword : password ≠ "") (hpassword' : password' ≠ "") :
      SameButPasswords (.updateAccount ⟨some { account with password }⟩)
        (.updateAccount ⟨some { account with password := password' }⟩)

/-- The answers to a call in two runs: the same answer, or the credential of a `GetCredential` with
another password. -/
inductive SameButPassword (call : AccountCall) :
    Status × AccountResponse → Status × AccountResponse → Prop
  | same (answer : Status × AccountResponse) : SameButPassword call answer answer
  | credential {request : GetCredentialRequest} (hcall : call = .getCredential request)
      (credential : CredentialMaterial) (password : String) :
      SameButPassword call (.OK, .getCredential ⟨some credential⟩)
        (.OK, .getCredential ⟨some { credential with password }⟩)

/-- How two runs end a call. -/
def Served (call : AccountCall) (answer answer' : Status × AccountResponse) (stage : Stage) :
    Prop :=
  SameButPassword call answer answer' ∧ stage = .idle

/-- The answer that is made of what the business of a handler returns. -/
lemma respond_inStep {call : AccountCall} {Response ServerData : Type}
    {wrap : Response → AccountResponse} {response : Response}
    {buildResponse : ServerData → Response → Response} {result result' : Result Unit}
    {data data' : ServerData} (hcode : result.errorCode = result'.errorCode)
    (hbuild : SameButPassword call (.OK, wrap (buildResponse data response))
      (.OK, wrap (buildResponse data' response))) :
    SameButPassword call (respond wrap response buildResponse (result, data))
      (respond wrap response buildResponse (result', data')) := by
  unfold respond
  rw [← hcode]
  split
  · exact .same _
  · exact hbuild

/-- Business that writes, and its answer. -/
lemma write_inStep {call : AccountCall} {Response ServerData : Type}
    {wrap : Response → AccountResponse} {response : Response}
    {buildResponse : ServerData → Response → Response} {rows rows' : Db (Result Unit)}
    {data data' : ServerData}
    (hbuild : buildResponse data response = buildResponse data' response)
    (hrows : rows.Coupled rows' accountInStep .writing Ended) :
    (respond wrap response buildResponse <$> (do
      let result ← withTransaction rows
      return (result, data))).Coupled
    (respond wrap response buildResponse <$> (do
      let result ← withTransaction rows'
      return (result, data'))) accountInStep .idle (Served call) := by
  refine Coupled.map ((withTransaction_inStep hrows).bind fun result result' stage h => ?_)
  refine .pure ⟨respond_inStep h.1 ?_, h.2⟩
  rw [hbuild]
  exact .same _

/-- Business that reads, and its answer. -/
lemma read_inStep {call : AccountCall} {Response ServerData : Type}
    {wrap : Response → AccountResponse} {response : Response}
    {buildResponse : ServerData → Response → Response} {related : ServerData → ServerData → Prop}
    {business : Db (Result Unit × ServerData)}
    (hbuild : ∀ data data', related data data' →
      SameButPassword call (.OK, wrap (buildResponse data response))
        (.OK, wrap (buildResponse data' response)))
    (h : business.Coupled business accountInStep .idle (ReadInStep related)) :
    (respond wrap response buildResponse <$> business).Coupled
      (respond wrap response buildResponse <$> business) accountInStep .idle (Served call) := by
  refine Coupled.map (h.mono fun answer answer' stage h => ?_)
  exact ⟨respond_inStep h.1 (hbuild _ _ h.2.1), h.2.2⟩

/-- The business of a valid `UpdateAccount`. -/
lemma updateAccount_inStep {call : AccountCall} (account : TradingAccount)
    (haccountId : account.accountId ≠ "") {password password' : String}
    (hpasswords : password = password' ∨ password ≠ "" ∧ password' ≠ "") :
    (AccountCall.updateAccount ⟨some { account with password }⟩).business.Coupled
      (AccountCall.updateAccount ⟨some { account with password := password' }⟩).business
      accountInStep .idle (Served call) :=
  write_inStep rfl (updateRows_inStep haccountId hpasswords)

/-- The business of a valid `AddAccount`. -/
lemma addAccount_inStep {call : AccountCall} (account : TradingAccount)
    {password password' : String} (hpassword : password ≠ "") (hpassword' : password' ≠ "") :
    (AccountCall.addAccount ⟨some { account with password }⟩).business.Coupled
      (AccountCall.addAccount ⟨some { account with password := password' }⟩).business
      accountInStep .idle (Served call) :=
  write_inStep rfl (addRows_inStep hpassword hpassword')

/-- The business of a valid call.

**Proof sketch.** By cases on what may differ in the calls: a password in one of the two writing
calls, or nothing. -/
lemma business_inStep {call call' : AccountCall} (h : SameButPasswords call call')
    (hvalid : call.Valid) :
    call.business.Coupled call'.business accountInStep .idle (Served call) := by
  cases h with
  | addAccount account hpassword hpassword' => exact addAccount_inStep account hpassword hpassword'
  | updateAccount account hpassword hpassword' =>
    exact updateAccount_inStep account hvalid (.inr ⟨hpassword, hpassword'⟩)
  | same =>
    cases call with
    | addAccount request =>
      obtain ⟨account⟩ := request
      cases account with
      | none => exact hvalid.elim
      | some account => exact addAccount_inStep account hvalid.2 hvalid.2
    | updateAccount request =>
      obtain ⟨account⟩ := request
      cases account with
      | none => exact hvalid.elim
      | some account => exact updateAccount_inStep account hvalid (.inl rfl)
    | getAccount request =>
      refine read_inStep (fun data data' hdata => ?_) (getAccount_inStep _)
      rw [hdata]
      exact .same _
    | listAccounts request =>
      refine read_inStep (fun data data' hdata => ?_) (listAccounts_inStep _)
      rw [hdata]
      exact .same _
    | getCredential request =>
      refine read_inStep (fun data data' hdata => ?_) (getCredential_inStep hvalid.2)
      rw [hdata]
      exact .credential rfl _ _

/-- A call is refused in both runs. -/
lemma refused_inStep {call : AccountCall} (code : ErrorCode) (response : AccountResponse) :
    (return (toGrpcStatus code, response) : Db (Status × AccountResponse)).Coupled
      (return (toGrpcStatus code, response)) accountInStep .idle (Served call) :=
  .pure ⟨.same _, rfl⟩

/-- What is done if the database is ready. -/
lemma whenReady_inStep {call : AccountCall} {response : AccountResponse}
    {rest rest' : Db (Status × AccountResponse)}
    (h : rest.Coupled rest' accountInStep .idle (Served call)) :
    (whenReady response rest).Coupled (whenReady response rest') accountInStep .idle
      (Served call) := by
  refine Coupled.bind (Coupled.request (.isReady .idle) fun _ _ _ h => h)
    fun ready _ stage' hready => ?_
  cases hready
  cases ready with
  | false => exact refused_inStep .kSystemError response
  | true => exact h

/-- Calls that differ in passwords only are valid together. -/
lemma SameButPasswords.valid_iff {call call' : AccountCall} (h : SameButPasswords call call') :
    call.Valid ↔ call'.Valid := by
  cases h with
  | same => exact Iff.rfl
  | addAccount account hpassword hpassword' =>
    exact and_congr_right fun _ => ⟨fun _ => hpassword', fun _ => hpassword⟩
  | updateAccount => exact Iff.rfl

/-- Calls that differ in passwords only have the same response to fill. -/
lemma SameButPasswords.blank_eq {call call' : AccountCall} (h : SameButPasswords call call') :
    call.blank = call'.blank := by
  cases h <;> rfl

/-- One call in two runs: the calls to the database are made in step, and the answers differ in
the password of a credential at most. -/
theorem serve_inStep {call call' : AccountCall} (h : SameButPasswords call call') :
    (serve call).Coupled (serve call') accountInStep .idle (Served call) := by
  by_cases hvalid : call.Valid
  · rw [serve_of_valid hvalid, serve_of_valid (h.valid_iff.mp hvalid), ← h.blank_eq]
    exact whenReady_inStep (business_inStep h hvalid)
  · have hvalid' : ¬call'.Valid := fun hvalid' => hvalid (h.valid_iff.mpr hvalid')
    rw [serve_of_invalid hvalid, serve_of_invalid hvalid', ← h.blank_eq]
    exact whenReady_inStep (refused_inStep .kInternalError call.blank)

/-! ## Runs -/

section

variable {σ E : Type} {db : Program.Handler Call.Answer σ} {content : σ → Session accountSchema}
  {environment : σ → E} {faults : Prop} {counting : Counting}

end

namespace Sample

/-- An account gets another connection, and a password. -/
def update (password : String) : List AccountCall :=
  [.updateAccount ⟨some ⟨"acc", "ctp", password, "tcp://b", ""⟩⟩]

/-- An account is added, used, updated and used again. -/
def rotation (password password' : String) : List AccountCall :=
  [.addAccount ⟨some ⟨"acc", "ctp", password, "tcp://a", ""⟩⟩, .getCredential ⟨"acc", "engine"⟩] ++
    update password' ++ [.getCredential ⟨"acc", "engine"⟩]

/-- Rotations differ in the passwords only. -/
lemma rotation_sameButPasswords {password password' rotated rotated' : String}
    (hpassword : password ≠ "") (hpassword' : password' ≠ "") (hrotated : rotated ≠ "")
    (hrotated' : rotated' ≠ "") :
    List.Forall₂ SameButPasswords (rotation password rotated) (rotation password' rotated') :=
  .cons (.addAccount ⟨"acc", "ctp", "", "tcp://a", ""⟩ hpassword hpassword')
    (.cons (.same _) (.cons (.updateAccount ⟨"acc", "ctp", "", "tcp://b", ""⟩ hrotated hrotated')
      (.cons (.same _) .nil)))

/-- An empty database, of which the thirteenth call fails, in the first `GetCredential`. -/
def failing : Session accountSchema × List Bool :=
  (⟨.empty, none⟩, List.replicate 12 false ++ [true])

end Sample

/-- Answers that differ in a password have the same status. -/
lemma SameButPassword.status_eq {call : AccountCall} {answer answer' : Status × AccountResponse}
    (h : SameButPassword call answer answer') : answer.1 = answer'.1 := by
  cases h <;> rfl

end AccountService
