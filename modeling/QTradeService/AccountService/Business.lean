import QTradeService.AccountService.Steps

set_option relaxedAutoImplicit false
set_option autoImplicit false

/-!
# The business of the handlers

What `ExecuteBusiness` of each handler answers on a database that conforms, and what it leaves.

## Main results

* `AccountService.addRows_ensures`, `AccountService.updateRows_ensures` — both tables are written
  and committed, or nothing is.
* `AccountService.getAccount_ensures`, `AccountService.listAccounts_ensures`,
  `AccountService.getCredential_ensures` — the answer is read off the tables, which do not change.
-/

namespace AccountService

open Sql Dao Database Grpc

section

variable {σ : Type} {db : Program.Handler Call.Answer σ} {content : σ → Session accountSchema}
  {faults : Prop} {counting : Counting} {store : Store accountSchema}

/-- What a piece of the business leaves: success and the tables that `Done` describes, or a failure
and the tables from before. No transaction is open. -/
inductive Outcome (store : Store accountSchema) (Failed : ErrorCode → Prop)
    (Done : Store accountSchema → Prop) : Result Unit → Session accountSchema → Prop
  | done {store' : Store accountSchema} (h : Done store') :
      Outcome store Failed Done (.void .kSuccess "success") ⟨store', none⟩
  | failed {code : ErrorCode} {message : String} (hcode : code ≠ .kSuccess) (h : Failed code) :
      Outcome store Failed Done (.void code message) ⟨store, none⟩

variable {Failed : ErrorCode → Prop} {Done : Store accountSchema → Prop}
  (hdb : Conforms faults counting db content)

include hdb

/-- A failure rolls back what was not committed. -/
lemma rollbackAndFail_ensures {code : ErrorCode} {message : String} (hcode : code ≠ .kSuccess)
    (h : Failed code) {s : σ} (hs : (content s).committed = store) :
    (rollbackAndFail code message).Ensures db s fun result s' =>
      Outcome store Failed Done result (content s') := by
  have hrollback : content (db .rollbackTransaction s).2 = ⟨store, none⟩ := by
    rw [hdb.rollbackTransaction s, hs]
  show Outcome store Failed Done (.void code message) (content (db .rollbackTransaction s).2)
  rw [hrollback]
  exact .failed hcode h

/-- A commit publishes the tables of the transaction, or fails.

**Proof sketch.** By what `COMMIT` reports. If it fails, the database is faulty, and the rollback
leaves the committed tables. -/
lemma commit_ensures {working : Store accountSchema} (hfaults : faults → Failed .kSystemError)
    (hdone : Done working) {s : σ} (hs : content s = ⟨store, some working⟩) :
    commit.Ensures db s fun result s' => Outcome store Failed Done result (content s') := by
  have hcommit : commitTransaction.Ensures db s fun committed s' =>
      (committed = true ∧ content s' = ⟨working, none⟩) ∨
        (faults ∧ committed = false ∧ (content s').committed = store) :=
    hdb.commitTransaction s store working hs
  unfold commit
  apply hcommit.bind
  intro committed s' hs'
  rcases hs' with ⟨rfl, hs'⟩ | ⟨h, rfl, hs'⟩
  · refine .pure ?_
    rw [hs']
    exact .done hdone
  · rw [if_pos (by decide)]
    exact rollbackAndFail_ensures hdb (by decide) (hfaults h) hs'

/-- Business in a transaction.

**Proof sketch.** The connection and `BEGIN` come first, and either may fail, on a faulty database
only. From there on the business is run. -/
lemma withTransaction_ensures {business : Db (Result Unit)} {s : σ}
    (hfaults : faults → Failed .kSystemError)
    (hbusiness : ∀ s', content s' = ⟨store, some store⟩ →
      business.Ensures db s' fun result s'' => Outcome store Failed Done result (content s''))
    (hs : content s = ⟨store, none⟩) :
    (withTransaction business).Ensures db s fun result s' =>
      Outcome store Failed Done result (content s') := by
  have hrejected (h : faults) (message : String) :
      Outcome store Failed Done (.void .kSystemError message) ⟨store, none⟩ :=
    .failed (by decide) (hfaults h)
  refine checked_ensures _ (hdb.acquire s kAccountDatabaseName) rfl
    (fun h => by rw [hs]; exact hrejected h _) ?_
  intro s₁ hs₁
  have hbegin : beginTransaction.Ensures db s₁ fun begun s' =>
      (begun = true ∧ content s' = ⟨store, some store⟩) ∨
        (faults ∧ begun = false ∧ content s' = ⟨store, none⟩) :=
    hdb.beginTransaction s₁ store (hs₁.trans hs)
  apply hbegin.bind
  intro begun s₂ hs₂
  rcases hs₂ with ⟨rfl, hs₂⟩ | ⟨h, rfl, hs₂⟩
  · exact hbusiness s₂ hs₂
  · refine .pure ?_
    rw [hs₂]
    exact hrejected h _

omit hdb in
/-- A statement in a transaction: it works on the tables of the transaction, or it fails and leaves
the committed ones alone. -/
lemma written_in_transaction {reported : ℤ → Prop} {working : Store accountSchema}
    {statement : Statement} {result : Result ℤ} {session' : Session accountSchema}
    (h : Written faults reported ⟨store, some working⟩ statement result session') :
    (∃ working' affected, working.exec statement = some working' ∧ reported affected ∧
      result = ⟨.kSuccess, "", some affected⟩ ∧ session' = ⟨store, some working'⟩) ∨
    (∃ message, result = .void .kSystemError message ∧
      (working.exec statement = none ∨ faults) ∧ session'.committed = store) := by
  cases h with
  | executed hexec hreported => exact .inl ⟨_, _, hexec, hreported, rfl, rfl⟩
  | failed hexec hcommitted => exact .inr ⟨_, rfl, hexec, hcommitted⟩

/-! ## `AddAccount` -/

/-- A store is what `AddAccount` makes of it. -/
def Added (store : Store accountSchema) (account : TradingAccount) (store₂ : Store accountSchema) :
    Prop :=
  ∃ store₁, store.exec (insertAccount account) = some store₁ ∧
    store₁.exec (insertCredential account) = some store₂ ∧
    store.select Dao.TradingAccount.tableName (accountIs account.accountId) = []

/-- The two inserts of `AddAccount`.

**Proof sketch.** By what the two inserts report, and the commit after them. An insert fails because
the tables refuse it or because of a fault, and is rolled back. -/
lemma insertRows_ensures {account : TradingAccount}
    (hfresh : store.select Dao.TradingAccount.tableName (accountIs account.accountId) = []) {s : σ}
    (hs : content s = ⟨store, some store⟩) :
    (AddAccountHandler.insertRows ⟨account.password, toTradingAccountRecord account⟩ "stub-v1"
        account.password).Ensures db s fun result s' =>
      Outcome store (Refused faults counting store (.addAccount ⟨some account⟩))
        (Added store account) result (content s') := by
  unfold AddAccountHandler.insertRows
  have hinsert := insertRecords_ensures hdb accountSchema_wordy tradingAccountTable_mem
    (fits_buildTradingAccountValues (toTradingAccountRecord account))
    (complete_accountValues account) nofun s
  apply hinsert.bind
  intro result s₁ hwritten
  rw [hs] at hwritten
  rcases written_in_transaction hwritten with
    ⟨store₁, affected, haccount, -, rfl, hs₁⟩ | ⟨message, rfl, hexec, hs₁⟩
  · rw [if_neg (by simp)]
    have hinsert := insertRecords_ensures hdb accountSchema_wordy accountCredentialTable_mem
      (fits_buildAccountCredentialValues (credentialRow (some account.accountId) "stub-v1"
        account.password)) (complete_credentialValues account) nofun s₁
    apply hinsert.bind
    intro result s₂ hwritten
    rw [hs₁] at hwritten
    rcases written_in_transaction hwritten with
      ⟨store₂, affected, hcredential, -, rfl, hs₂⟩ | ⟨message, rfl, hexec, hs₂⟩
    · rw [if_neg (by simp)]
      exact commit_ensures hdb .faulty ⟨store₁, haccount, hcredential, hfresh⟩ hs₂
    · rw [if_pos (by simp)]
      refine rollbackAndFail_ensures hdb (by simp) ?_ hs₂
      rcases hexec with hexec | hfaults
      · exact .credentialNotInserted haccount hexec
      · exact .faulty hfaults
  · rw [if_pos (by simp)]
    refine rollbackAndFail_ensures hdb (by simp) ?_ hs₁
    rcases hexec with hexec | hfaults
    · exact .accountNotInserted hexec
    · exact .faulty hfaults

/-- The business of `AddAccount`.

**Proof sketch.** By the answer to the query. A count that is not zero means that the account has a
row; otherwise the two inserts follow. -/
lemma addRows_ensures {account : TradingAccount}
    (hvalid : (AccountCall.addAccount ⟨some account⟩).Valid) {s : σ}
    (hs : content s = ⟨store, some store⟩) :
    (AddAccountHandler.addRows ⟨account.password, toTradingAccountRecord account⟩).Ensures db s
      fun result s' =>
        Outcome store (Refused faults counting store (.addAccount ⟨some account⟩))
          (Added store account) result (content s') := by
  obtain ⟨haccountId, hpassword⟩ := hvalid
  unfold AddAccountHandler.addRows
  refine (countRows_ensures hdb accountSchema_wordy tradingAccountTable_mem
    (fits_buildTradingAccountValues _) s).bind ?_
  intro existing s₁ hs₁
  obtain ⟨hexisting, hs₁⟩ := hs₁
  rw [hs] at hs₁ hexisting
  cases hexisting with
  | failed hfaults =>
    rw [if_pos (by simp)]
    refine rollbackAndFail_ensures hdb (by simp) ?_ (by rw [hs₁])
    exact .faulty hfaults
  | @answered count hcount =>
    rw [if_neg (by simp)]
    have hcount : count =
        (store.select Dao.TradingAccount.tableName (accountIs account.accountId)).length := by
      rw [← conditionsOf_account haccountId]
      exact hcount
    by_cases hfresh : store.select Dao.TradingAccount.tableName (accountIs account.accountId) = []
    · rw [hfresh] at hcount
      rw [if_neg (by simp [hcount])]
      have hencrypt : encryptCredential account.password = some ("stub-v1", account.password) :=
        if_neg hpassword
      simp only [hencrypt]
      exact insertRows_ensures hdb hfresh hs₁
    · have hlength := List.length_pos_iff.mpr hfresh
      rw [if_pos (by simp only [hcount, Option.getD_some]; omega)]
      refine rollbackAndFail_ensures hdb (by decide) ?_ (by rw [hs₁])
      exact .accountExists hfresh

/-! ## `UpdateAccount` -/

/-- A store is what `UpdateAccount` makes of it. -/
def Updated (counting : Counting) (store : Store accountSchema) (account : TradingAccount)
    (store₂ : Store accountSchema) : Prop :=
  ∃ store₁, store.exec (updateAccountRow account) = some store₁ ∧
    Affects counting (updateAccountRow account) store ∧
    if account.password = "" then store₂ = store₁
    else store₁.exec (updateCredential account) = some store₂ ∧
      Affects counting (updateCredential account) store₁

/-- The second update of `UpdateAccount`.

**Proof sketch.** By the answer to the query, then by what the update reports, then by its count.
Every way out but the last one rolls back with a reason of its own; the last one commits both
updates. -/
lemma updateCredential_ensures {account : TradingAccount} (haccountId : account.accountId ≠ "")
    (hpassword : account.password ≠ "") {store₁ : Store accountSchema}
    (haccount : store.exec (updateAccountRow account) = some store₁)
    (haffects : Affects counting (updateAccountRow account) store) {s : σ}
    (hs : content s = ⟨store, some store₁⟩) (updatePassword : Bool) :
    (UpdateAccountHandler.updateCredential
        ⟨updatePassword, account.password, toTradingAccountRecord account⟩).Ensures db s
      fun result s' =>
        Outcome store (Refused faults counting store (.updateAccount ⟨some account⟩))
          (Updated counting store account) result (content s') := by
  unfold UpdateAccountHandler.updateCredential
  have hencrypt : encryptCredential account.password = some ("stub-v1", account.password) :=
    if_neg hpassword
  simp only [hencrypt]
  apply (AccountCredential.select_ensures hdb _ s).bind
  intro existing s₁ hs₁
  obtain ⟨hexisting, hs₁⟩ := hs₁
  rw [hs] at hs₁ hexisting
  cases hexisting with
  | failed hfaults =>
    rw [if_pos (by simp)]
    refine rollbackAndFail_ensures hdb (by decide) ?_ (by rw [hs₁])
    exact .faulty hfaults
  | @answered records hrecords =>
    obtain ⟨rows, hperm, hreads⟩ := hrecords
    have hlength : records.length =
        (store₁.select AccountCredential.tableName (passwordOf account.accountId)).length := by
      rw [← hreads.length_eq, hperm.length_eq, ← conditionsOf_password haccountId]
      rfl
    by_cases hmissing :
        store₁.select AccountCredential.tableName (passwordOf account.accountId) = []
    · rw [hmissing] at hlength
      have hrecords : records = [] := List.length_eq_zero_iff.mp hlength
      rw [if_pos (by simp [hrecords])]
      refine rollbackAndFail_ensures hdb (by decide) ?_ (by rw [hs₁])
      exact .credentialMissing haccount hmissing
    · have hrecords : records ≠ [] := by
        rintro rfl
        exact hmissing (List.length_eq_zero_iff.mp hlength.symm)
      rw [if_neg (by simp [hrecords])]
      have hupdate := updateRecords_ensures hdb accountSchema_wordy accountCredentialTable_mem
        (fits_buildAccountCredentialValues (credentialRow (some account.accountId) "stub-v1"
          account.password))
        (fits_buildAccountCredentialValues
          { accountId := some account.accountId, credentialType := some .kPassword })
        nofun nofun s₁
      rw [conditionsOf_password haccountId] at hupdate
      apply hupdate.bind
      intro result s₂ hwritten
      rw [hs₁] at hwritten
      rcases written_in_transaction hwritten with
        ⟨store₂, affected, hcredential, hcounting, rfl, hs₂⟩ | ⟨message, rfl, hexec, hs₂⟩
      · rw [if_neg (by simp)]
        by_cases haffected : affected = 0
        · rw [if_pos (by simpa using haffected)]
          refine rollbackAndFail_ensures hdb (by decide) ?_ (by rw [hs₂])
          rw [haffected] at hcounting
          exact .credentialNotAffected haccount hcounting
        · rw [if_neg (by simpa using haffected)]
          refine commit_ensures hdb .faulty ⟨store₁, haccount, haffects, ?_⟩ hs₂
          rw [if_neg hpassword]
          exact ⟨hcredential, affected, hcounting, haffected⟩
      · rw [if_pos (by simp)]
        refine rollbackAndFail_ensures hdb (by simp) ?_ hs₂
        rcases hexec with hexec | hfaults
        · exact .credentialNotUpdated haccount hexec
        · exact .faulty hfaults

/-- The business of `UpdateAccount`.

**Proof sketch.** By what the update of the account reports and by its count, then by whether the
request carries a password, as the source does. -/
lemma updateRows_ensures {account : TradingAccount}
    (hvalid : (AccountCall.updateAccount ⟨some account⟩).Valid) {s : σ}
    (hs : content s = ⟨store, some store⟩) :
    (UpdateAccountHandler.updateRows ⟨account.password ≠ "", account.password,
        toTradingAccountRecord account⟩).Ensures db s
      fun result s' =>
        Outcome store (Refused faults counting store (.updateAccount ⟨some account⟩))
          (Updated counting store account) result (content s') := by
  have haccountId : account.accountId ≠ "" := hvalid
  unfold UpdateAccountHandler.updateRows
  have hupdate := updateRecords_ensures hdb accountSchema_wordy tradingAccountTable_mem
    (fits_buildTradingAccountValues (toTradingAccountRecord account))
    (fits_buildTradingAccountValues { accountId := some account.accountId }) nofun nofun s
  rw [conditionsOf_account haccountId] at hupdate
  apply hupdate.bind
  intro result s₁ hwritten
  rw [hs] at hwritten
  rcases written_in_transaction hwritten with
    ⟨store₁, affected, haccount, hcounting, rfl, hs₁⟩ | ⟨message, rfl, hexec, hs₁⟩
  · rw [if_neg (by simp)]
    by_cases haffected : affected = 0
    · rw [if_pos (by simpa using haffected)]
      refine rollbackAndFail_ensures hdb (by decide) ?_ (by rw [hs₁])
      rw [haffected] at hcounting
      exact .accountNotAffected hcounting
    · rw [if_neg (by simpa using haffected)]
      have haffects : Affects counting (updateAccountRow account) store :=
        ⟨affected, hcounting, haffected⟩
      by_cases hpassword : account.password = ""
      · rw [if_neg (by simpa using hpassword)]
        refine commit_ensures hdb .faulty ⟨store₁, haccount, haffects, ?_⟩ hs₁
        rw [if_pos hpassword]
      · rw [if_pos (by simpa using hpassword)]
        exact updateCredential_ensures hdb haccountId hpassword haccount haffects hs₁ _
  · rw [if_pos (by simp)]
    refine rollbackAndFail_ensures hdb (by simp) ?_ hs₁
    rcases hexec with hexec | hfaults
    · exact .accountNotUpdated hexec
    · exact .faulty hfaults

/-! ## Reading calls -/

/-- What the business of a reading call answers: the server data that `Done` describes, or a
failure. -/
inductive ReadOutcome {ServerData : Type} (Failed : ErrorCode → Prop) (Done : ServerData → Prop) :
    Result Unit × ServerData → Prop
  | done {data : ServerData} (h : Done data) :
      ReadOutcome Failed Done (.void .kSuccess "success", data)
  | failed {code : ErrorCode} {message : String} {data : ServerData} (hcode : code ≠ .kSuccess)
      (h : Failed code) : ReadOutcome Failed Done (.void code message, data)

/-- What a selection of an account answers: a failure, no rows, or a row of the account first. -/
inductive Found (faults : Prop) (store : Store accountSchema) (accountId : String) :
    Result (List TradingAccountRecord) → Prop
  | failed {message : String} (hfaults : faults) :
      Found faults store accountId (.void .kSystemError message)
  | nothing (hmissing : store.select Dao.TradingAccount.tableName (accountIs accountId) = []) :
      Found faults store accountId ⟨.kSuccess, "", some []⟩
  | account {row : Row} {records : List TradingAccountRecord}
      (hrow : row ∈ store.select Dao.TradingAccount.tableName (accountIs accountId)) :
      Found faults store accountId ⟨.kSuccess, "", some (.ofRow row :: records)⟩

/-- The selection of an account.

**Proof sketch.** An answer of the database is a permutation of the matching rows, and the first
record is one of them. -/
lemma selectAccount_ensures {accountId : String} (haccountId : accountId ≠ "") {s : σ}
    (hs : content s = ⟨store, none⟩) :
    (TradingAccount.select { accountId := some accountId }).Ensures db s fun result s' =>
      Found faults store accountId result ∧ content s' = ⟨store, none⟩ := by
  apply (TradingAccount.select_ensures hdb _ s).mono
  intro result s' hs'
  obtain ⟨hresult, hs'⟩ := hs'
  rw [hs] at hs' hresult
  refine ⟨?_, hs'⟩
  cases hresult with
  | failed hfaults => exact .failed hfaults
  | answered hrecords =>
    obtain ⟨rows, rfl, hperm⟩ := hrecords
    rw [conditionsOf_account haccountId] at hperm
    cases rows with
    | nil => exact .nothing hperm.nil_eq.symm
    | cons row rows => exact .account (hperm.subset (List.mem_cons_self ..))

/-- The business of `GetAccount`.

**Proof sketch.** By the connection, and by what the selection finds. -/
lemma getAccount_ensures {accountId : String} (haccountId : accountId ≠ "")
    (account : TradingAccountRecord) {s : σ} (hs : content s = ⟨store, none⟩) :
    (GetAccountHandler.executeBusiness ⟨accountId, account⟩).Ensures db s fun answer s' =>
      ReadOutcome (Refused faults counting store (.getAccount ⟨accountId⟩))
        (fun data => ∃ row ∈ store.select Dao.TradingAccount.tableName (accountIs accountId),
          data = ⟨accountId, .ofRow row⟩) answer ∧ content s' = ⟨store, none⟩ := by
  refine checked_ensures (fun answer session => ReadOutcome _ _ answer ∧ session = ⟨store, none⟩)
    (hdb.acquire s kAccountDatabaseName) rfl (fun h => ⟨.failed (by decide) (.faulty h), hs⟩)
    ?_
  intro s₁ hs₁
  apply (selectAccount_ensures hdb haccountId (hs₁.trans hs)).bind
  intro result s₂ hs₂
  obtain ⟨hfound, hs₂⟩ := hs₂
  cases hfound with
  | failed hfaults => exact .pure ⟨.failed (by simp) (.faulty hfaults), hs₂⟩
  | nothing hmissing =>
    exact .pure ⟨.failed (by decide) (.accountNotFound (.inl rfl) hmissing), hs₂⟩
  | account hrow => exact .pure ⟨.done ⟨_, hrow, rfl⟩, hs₂⟩

/-- The business of `ListAccounts`.

**Proof sketch.** By the connection, and by the answer of the database. -/
lemma listAccounts_ensures {s : σ} (hs : content s = ⟨store, none⟩) :
    (ListAccountsHandler.executeBusiness ⟨[]⟩).Ensures db s fun answer s' =>
      ReadOutcome (Refused faults counting store (.listAccounts {}))
        (fun data => ∃ rows : List Row, rows.Perm (store.select Dao.TradingAccount.tableName []) ∧
          data = ⟨rows.map .ofRow⟩) answer ∧ content s' = ⟨store, none⟩ := by
  refine checked_ensures (fun answer session => ReadOutcome _ _ answer ∧ session = ⟨store, none⟩)
    (hdb.acquire s kAccountDatabaseName) rfl (fun h => ⟨.failed (by decide) (.faulty h), hs⟩)
    ?_
  intro s₁ hs₁
  apply (TradingAccount.select_ensures hdb _ s₁).bind
  intro result s₂ hs₂
  obtain ⟨hresult, hs₂⟩ := hs₂
  rw [hs₁, hs] at hs₂ hresult
  cases hresult with
  | failed hfaults => exact .pure ⟨.failed (by simp) (.faulty hfaults), hs₂⟩
  | answered hrecords =>
    obtain ⟨rows, rfl, hperm⟩ := hrecords
    exact .pure ⟨.done ⟨rows, hperm, rfl⟩, hs₂⟩

/-- The second half of the business of `GetCredential`.

**Proof sketch.** By the answer of the database, then by the two columns that the record needs. The
record agrees with its row, so that a missing or an empty column is one of the row. -/
lemma readPassword_ensures {accountId engineId password : String} (haccountId : accountId ≠ "")
    (account : TradingAccountRecord) {s : σ} (hs : content s = ⟨store, none⟩) :
    (GetCredentialHandler.readPassword ⟨accountId, engineId, password, account⟩).Ensures db s
      fun answer s' =>
        ReadOutcome (Refused faults counting store (.getCredential ⟨accountId, engineId⟩))
          (fun data =>
            ∃ credential ∈ store.select AccountCredential.tableName (passwordOf accountId),
            ∃ password, credential "ciphertext" = some password ∧
              data = ⟨accountId, engineId, password, account⟩) answer ∧
          content s' = ⟨store, none⟩ := by
  unfold GetCredentialHandler.readPassword
  apply (AccountCredential.select_ensures hdb _ s).bind
  intro result s₁ hs₁
  obtain ⟨hresult, hs₁⟩ := hs₁
  rw [hs] at hs₁ hresult
  cases hresult with
  | failed hfaults =>
    rw [if_pos (by simp)]
    exact .pure ⟨.failed (by simp) (.faulty hfaults), hs₁⟩
  | @answered records hrecords =>
    rw [if_neg (by simp)]
    obtain ⟨rows, hperm, hreads⟩ := hrecords
    rw [conditionsOf_password haccountId] at hperm
    cases hreads with
    | nil => exact .pure ⟨.failed (by decide) (.credentialNotFound hperm.nil_eq.symm), hs₁⟩
    | @cons row credRow rows records hread _ =>
      have hrow : row ∈ store.select AccountCredential.tableName (passwordOf accountId) :=
        hperm.subset (List.mem_cons_self ..)
      have hunusable (h : (row "key_id").getD "" = "" ∨ (row "ciphertext").getD "" = "") :
          Refused faults counting store (.getCredential ⟨accountId, engineId⟩) .kInternalError :=
        .credentialUnusable hrow h
      rw [← hread.keyId, ← hread.ciphertext] at hunusable
      simp only [Option.getD_some]
      cases hkeyId : credRow.keyId with
      | none =>
        simp only [hkeyId] at hunusable ⊢
        exact .pure ⟨.failed (by decide) (hunusable (.inl rfl)), hs₁⟩
      | some keyId =>
        cases hciphertext : credRow.ciphertext with
        | none =>
          simp only [hciphertext] at hunusable ⊢
          exact .pure ⟨.failed (by decide) (hunusable (.inr rfl)), hs₁⟩
        | some ciphertext =>
          simp only [hkeyId, hciphertext, Option.getD_some] at hunusable ⊢
          by_cases hempty : keyId = "" ∨ ciphertext = ""
          · rw [decryptCredential, if_pos hempty]
            exact .pure ⟨.failed (by decide) (hunusable hempty), hs₁⟩
          · rw [decryptCredential, if_neg hempty]
            have hpassword : row "ciphertext" = some ciphertext := by
              rw [← hread.ciphertext, hciphertext]
            exact .pure ⟨.done ⟨row, hrow, ciphertext, hpassword, rfl⟩, hs₁⟩

/-- The business of `GetCredential`.

**Proof sketch.** By the connection, what the selection finds and the status in the row; from there
on the password is read. -/
lemma getCredential_ensures {accountId engineId password : String} (haccountId : accountId ≠ "")
    (account : TradingAccountRecord) {s : σ} (hs : content s = ⟨store, none⟩) :
    (GetCredentialHandler.executeBusiness ⟨accountId, engineId, password, account⟩).Ensures db s
      fun answer s' =>
        ReadOutcome (Refused faults counting store (.getCredential ⟨accountId, engineId⟩))
          (fun data =>
            ∃ row ∈ store.select Dao.TradingAccount.tableName (accountIs accountId),
              row "status" ≠ some "disabled" ∧
            ∃ credential ∈ store.select AccountCredential.tableName (passwordOf accountId),
              ∃ password, credential "ciphertext" = some password ∧
                data = ⟨accountId, engineId, password, .ofRow row⟩) answer ∧
          content s' = ⟨store, none⟩ := by
  refine checked_ensures (fun answer session => ReadOutcome _ _ answer ∧ session = ⟨store, none⟩)
    (hdb.acquire s kAccountDatabaseName) rfl (fun h => ⟨.failed (by decide) (.faulty h), hs⟩)
    ?_
  intro s₁ hs₁
  apply (selectAccount_ensures hdb haccountId (hs₁.trans hs)).bind
  intro result s₂ hs₂
  obtain ⟨hfound, hs₂⟩ := hs₂
  cases hfound with
  | failed hfaults => exact .pure ⟨.failed (by simp) (.faulty hfaults), hs₂⟩
  | nothing hmissing =>
    exact .pure ⟨.failed (by decide) (.accountNotFound (.inr ⟨engineId, rfl⟩) hmissing), hs₂⟩
  | @account row records hrow =>
    rw [if_neg (by simp)]
    simp only [Option.getD_some]
    -- the account is refused by the text in its row, whatever the request carries
    by_cases hstatus : row "status" = some "disabled"
    · rw [if_pos (by rw [TradingAccountRecord.ofRow, hstatus]; rfl)]
      exact .pure ⟨.failed (by decide) (.disabled hrow hstatus), hs₂⟩
    · have hnotDisabled : (TradingAccountRecord.ofRow row).status.getD "" ≠ "disabled" := by
        intro h
        cases hrowStatus : row "status" with
        | none => simp [TradingAccountRecord.ofRow, hrowStatus] at h
        | some status => simp_all [TradingAccountRecord.ofRow]
      rw [if_neg hnotDisabled]
      apply (readPassword_ensures hdb haccountId _ hs₂).mono
      intro answer s₃ h
      obtain ⟨hanswer, hs₃⟩ := h
      refine ⟨?_, hs₃⟩
      cases hanswer with
      | failed hcode hfailed => exact .failed hcode hfailed
      | done hdone =>
        obtain ⟨credential, hcredential, password, hpassword, rfl⟩ := hdone
        exact .done ⟨row, hrow, hstatus, credential, hcredential, password, hpassword, rfl⟩

end

end AccountService
