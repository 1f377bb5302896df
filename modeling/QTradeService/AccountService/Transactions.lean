import QTradeService.AccountService.Programs
import QTradeService.Dao.Transactions

set_option relaxedAutoImplicit false
set_option autoImplicit false

/-!
# The calls in a transaction

Every call keeps the discipline of a connection, whatever the database answers: `AddAccount`
publishes its two inserts together and answers `OK`, or it publishes nothing and fails;
`UpdateAccount` does so with its updates; the other calls publish nothing.

## Main definitions

* `AccountService.AccountCall.Publishes` — the statements that a call may publish.
* `AccountService.Concluded` — the answer of a call and what it has published.

## Main results

* `AccountService.serve_follows`.
-/

namespace AccountService

open Sql Dao Database Grpc Program

/-- The statements that a call may publish. -/
def AccountCall.Publishes : AccountCall → List Statement → Prop
  | .addAccount ⟨some account⟩, journal =>
    journal = [insertAccount account, insertCredential account]
  | .updateAccount ⟨some account⟩, journal =>
    journal = updateAccountRow account ::
      if account.password = "" then [] else [updateCredential account]
  | _, _ => False

/-- The transactions of a call. -/
abbrev callTransactions (call : AccountCall) : Discipline Call.Answer Phase :=
  transactions accountSchema call.Publishes

/-- What the business of a writing call has done: it has published and succeeds, or it has given
up and fails. -/
inductive Settled (Publishes : List Statement → Prop) : Result Unit → Phase → Prop
  | published {journal : List Statement} (h : Publishes journal) :
      Settled Publishes (.void .kSuccess "success") (.published journal)
  | refused {code : ErrorCode} (message : String) (hcode : code ≠ .kSuccess) :
      Settled Publishes (.void code message) .idle

/-- How a call ends: a call that writes has published exactly if it answers `OK`, and the others
have published nothing. -/
def Concluded (call : AccountCall) (answer : Status × AccountResponse) (phase : Phase) : Prop :=
  (answer.1 = .OK ∧ ∃ journal, phase = .published journal ∧ call.Publishes journal) ∨
    ((call.written.isSome → answer.1 ≠ .OK) ∧ phase = .idle)

/-! ## Transactions -/

section

variable {Publishes : List Statement → Prop}

/-- A failure gives the transaction up. -/
lemma rollbackAndFail_follows {code : ErrorCode} {message : String} (hcode : code ≠ .kSuccess)
    {phase : Phase} (hphase : phase = .broken ∨ ∃ journal, phase = .writing journal) :
    (rollbackAndFail code message).Follows (transactions accountSchema Publishes) phase
      (Settled Publishes) := by
  have hopen : ∀ journal, phase ≠ .published journal := by
    rintro journal rfl
    rcases hphase with hphase | ⟨journal, hphase⟩ <;> cases hphase
  exact ⟨⟨hopen, hphase⟩, fun _ => .refused message hcode⟩

/-- A commit publishes the transaction, or gives it up. -/
lemma commit_follows {journal : List Statement} (h : Publishes journal) :
    commit.Follows (transactions accountSchema Publishes) (.writing journal)
      (Settled Publishes) := by
  refine ⟨⟨nofun, journal, rfl, h⟩, fun committed => ?_⟩
  cases committed with
  | true => exact .published h
  | false => exact rollbackAndFail_follows (by decide) (.inl rfl)

/-- Business in a transaction. -/
lemma withTransaction_follows {business : Db (Result Unit)}
    (hbusiness : business.Follows (transactions accountSchema Publishes) (.writing [])
      (Settled Publishes)) :
    (withTransaction business).Follows (transactions accountSchema Publishes) .idle
      (Settled Publishes) := by
  refine ⟨⟨nofun, trivial⟩, fun acquired => ?_⟩
  cases acquired with
  | false => exact .refused _ (by decide)
  | true =>
    refine ⟨⟨nofun, rfl⟩, fun begun => ?_⟩
    cases begun with
    | false => exact .refused _ (by decide)
    | true => exact hbusiness

/-- Ask in a transaction and go on. -/
lemma asks_bind_follows {α β : Type} {p : Db α} {f : α → Db β} {journal : List Statement}
    {post : β → Phase → Prop} (hp : p.Only (Asks accountSchema))
    (hf : ∀ a, (f a).Follows (transactions accountSchema Publishes) (.writing journal) post) :
    (p >>= f).Follows (transactions accountSchema Publishes) (.writing journal) post := by
  refine (follows_of_asks hp (.inr ⟨journal, rfl⟩)).bind fun a phase hphase => ?_
  rw [hphase]
  exact hf a

/-! ## `AddAccount` -/

/-- The two inserts of `AddAccount`.

**Proof sketch.** A failed insert is rolled back. After both inserts the journal has the two
statements, which are then committed. -/
lemma insertRows_follows {account : TradingAccount}
    (h : Publishes [insertAccount account, insertCredential account]) :
    (AddAccountHandler.insertRows ⟨account.password, toTradingAccountRecord account⟩ "stub-v1"
        account.password).Follows (transactions accountSchema Publishes) (.writing [])
      (Settled Publishes) := by
  unfold AddAccountHandler.insertRows
  refine (insertRecords_follows accountSchema_wordy tradingAccountTable_mem
    (fits_buildTradingAccountValues (toTradingAccountRecord account))
    (complete_accountValues account) nofun).bind fun result phase hjoined => ?_
  cases hjoined with
  | failed message hphase =>
    rw [if_pos (by simp)]
    exact rollbackAndFail_follows (by simp) hphase
  | joined affected =>
    rw [if_neg (by simp)]
    refine (insertRecords_follows accountSchema_wordy accountCredentialTable_mem
      (fits_buildAccountCredentialValues (credentialRow (some account.accountId) "stub-v1"
        account.password)) (complete_credentialValues account) nofun).bind
      fun result phase hjoined => ?_
    cases hjoined with
    | failed message hphase =>
      rw [if_pos (by simp)]
      exact rollbackAndFail_follows (by simp) hphase
    | joined affected =>
      rw [if_neg (by simp)]
      exact commit_follows h

/-- The business of `AddAccount`.

**Proof sketch.** The count only asks. What follows is a rollback, or the two inserts. -/
lemma addRows_follows {account : TradingAccount} (hpassword : account.password ≠ "")
    (h : Publishes [insertAccount account, insertCredential account]) :
    (AddAccountHandler.addRows ⟨account.password, toTradingAccountRecord account⟩).Follows
      (transactions accountSchema Publishes) (.writing []) (Settled Publishes) := by
  unfold AddAccountHandler.addRows
  refine asks_bind_follows (TradingAccount.count_only _) fun existing => ?_
  by_cases hexisting : existing.errorCode = .kSuccess
  · rw [if_neg (not_not.mpr hexisting)]
    by_cases hcount : 0 < existing.data.getD 0
    · rw [if_pos hcount]
      exact rollbackAndFail_follows (by decide) (.inr ⟨[], rfl⟩)
    · rw [if_neg hcount]
      have hencrypt : encryptCredential account.password = some ("stub-v1", account.password) :=
        if_neg hpassword
      simp only [hencrypt]
      exact insertRows_follows h
  · rw [if_pos hexisting]
    exact rollbackAndFail_follows hexisting (.inr ⟨[], rfl⟩)

/-! ## `UpdateAccount` -/

/-- The second update of `UpdateAccount`.

**Proof sketch.** The selection only asks. A failed update and one that affects no row are rolled
back; otherwise the two updates are committed. -/
lemma updateCredential_follows {account : TradingAccount} {updatePassword : Bool}
    (haccountId : account.accountId ≠ "") (hpassword : account.password ≠ "")
    (h : Publishes [updateAccountRow account, updateCredential account]) :
    (UpdateAccountHandler.updateCredential
        ⟨updatePassword, account.password, toTradingAccountRecord account⟩).Follows
      (transactions accountSchema Publishes) (.writing [updateAccountRow account])
      (Settled Publishes) := by
  unfold UpdateAccountHandler.updateCredential
  have hencrypt : encryptCredential account.password = some ("stub-v1", account.password) :=
    if_neg hpassword
  simp only [hencrypt]
  refine asks_bind_follows (AccountCredential.select_only _) fun existing => ?_
  split
  · exact rollbackAndFail_follows (by decide) (.inr ⟨_, rfl⟩)
  · have hupdate : (AccountCredential.update
        (credentialRow (some account.accountId) "stub-v1" account.password)
        { accountId := some account.accountId, credentialType := some .kPassword }).Follows
          (transactions accountSchema Publishes) (.writing [updateAccountRow account])
          (Joined [updateAccountRow account] (updateCredential account)) := by
      unfold updateCredential
      rw [← conditionsOf_password haccountId]
      exact updateRecords_follows accountSchema_wordy accountCredentialTable_mem
        (fits_buildAccountCredentialValues (credentialRow (some account.accountId) "stub-v1"
          account.password))
        (fits_buildAccountCredentialValues
          { accountId := some account.accountId, credentialType := some .kPassword })
        nofun nofun
    refine hupdate.bind fun result phase hjoined => ?_
    cases hjoined with
    | failed message hphase =>
      rw [if_pos (by simp)]
      exact rollbackAndFail_follows (by simp) hphase
    | joined affected =>
      rw [if_neg (by simp)]
      split
      · exact rollbackAndFail_follows (by decide) (.inr ⟨_, rfl⟩)
      · exact commit_follows h

/-- The business of `UpdateAccount`.

**Proof sketch.** A failed update and one that affects no row are rolled back. Without a password
the first update is committed, and otherwise the second one follows. -/
lemma updateRows_follows {account : TradingAccount} (haccountId : account.accountId ≠ "")
    (h : Publishes (updateAccountRow account ::
      if account.password = "" then [] else [updateCredential account])) :
    (UpdateAccountHandler.updateRows ⟨account.password ≠ "", account.password,
        toTradingAccountRecord account⟩).Follows (transactions accountSchema Publishes)
      (.writing []) (Settled Publishes) := by
  unfold UpdateAccountHandler.updateRows
  have hupdate : (TradingAccount.update (toTradingAccountRecord account)
      { accountId := some account.accountId }).Follows (transactions accountSchema Publishes)
        (.writing []) (Joined [] (updateAccountRow account)) := by
    unfold updateAccountRow
    rw [← conditionsOf_account haccountId]
    exact updateRecords_follows accountSchema_wordy tradingAccountTable_mem
      (fits_buildTradingAccountValues (toTradingAccountRecord account))
      (fits_buildTradingAccountValues { accountId := some account.accountId }) nofun nofun
  refine hupdate.bind fun result phase hjoined => ?_
  cases hjoined with
  | failed message hphase =>
    rw [if_pos (by simp)]
    exact rollbackAndFail_follows (by simp) hphase
  | joined affected =>
    rw [if_neg (by simp)]
    split
    · exact rollbackAndFail_follows (by decide) (.inr ⟨_, rfl⟩)
    · by_cases hpassword : account.password = ""
      · rw [if_pos hpassword] at h
        rw [if_neg (by simpa using hpassword)]
        exact commit_follows h
      · rw [if_neg hpassword] at h
        rw [if_pos (by simpa using hpassword)]
        exact updateCredential_follows haccountId hpassword h

end

/-! ## Reading calls -/

/-- The business of `GetAccount` only asks. -/
lemma getAccount_only (serverData : GetAccountServerData) :
    (GetAccountHandler.executeBusiness serverData).Only (Asks accountSchema) := by
  refine Only.bind (Only.request trivial) fun acquired => ?_
  cases acquired with
  | false => trivial
  | true =>
    refine Only.bind (TradingAccount.select_only _) fun result => ?_
    split
    · trivial
    · split <;> trivial

/-- The business of `ListAccounts` only asks. -/
lemma listAccounts_only (serverData : ListAccountsServerData) :
    (ListAccountsHandler.executeBusiness serverData).Only (Asks accountSchema) := by
  refine Only.bind (Only.request trivial) fun acquired => ?_
  cases acquired with
  | false => trivial
  | true =>
    refine Only.bind (TradingAccount.select_only _) fun result => ?_
    split <;> trivial

/-- The second half of the business of `GetCredential` only asks. -/
lemma readPassword_only (serverData : GetCredentialServerData) :
    (GetCredentialHandler.readPassword serverData).Only (Asks accountSchema) := by
  refine Only.bind (AccountCredential.select_only _) fun result => ?_
  split
  · trivial
  · split
    · trivial
    · split
      · split <;> trivial
      · trivial

/-- The business of `GetCredential` only asks.

**Proof sketch.** Acquiring a connection and selecting rows change nothing, on every way through the
program. -/
lemma getCredential_only (serverData : GetCredentialServerData) :
    (GetCredentialHandler.executeBusiness serverData).Only (Asks accountSchema) := by
  refine Only.bind (Only.request trivial) fun acquired => ?_
  cases acquired with
  | false => trivial
  | true =>
    refine Only.bind (TradingAccount.select_only _) fun result => ?_
    split
    · trivial
    · split
      · trivial
      · split
        · trivial
        · exact readPassword_only _

/-! ## Calls -/

/-- A refusal concludes a call that has published nothing. -/
lemma concluded_refused (call : AccountCall) {code : ErrorCode} (hcode : code ≠ .kSuccess)
    (response : AccountResponse) : Concluded call (toGrpcStatus code, response) .idle :=
  .inr ⟨fun _ hOK => hcode (toGrpcStatus_eq_OK.mp hOK), rfl⟩

/-- The answer that is made of what the business of a writing call has done. -/
lemma concluded_of_settled {Response ServerData : Type} {call : AccountCall}
    {wrap : Response → AccountResponse} {response : Response}
    {buildResponse : ServerData → Response → Response} {result : Result Unit} {data : ServerData}
    {phase : Phase} (h : Settled call.Publishes result phase) :
    Concluded call (respond wrap response buildResponse (result, data)) phase := by
  cases h with
  | published hpublishes =>
    exact .inl ⟨rfl, _, rfl, hpublishes⟩
  | refused message hcode =>
    rw [respond_of_failed hcode]
    exact concluded_refused call hcode (wrap response)

/-- Business that only asks. -/
lemma concluded_of_only {call : AccountCall} (hread : call.written = none)
    {business : Db (Status × AccountResponse)} (h : business.Only (Asks accountSchema)) :
    business.Follows (callTransactions call) .idle (Concluded call) := by
  refine (follows_of_asks h (.inl rfl)).mono fun answer phase hphase => .inr ⟨?_, hphase⟩
  rw [hread]
  exact nofun

/-- The business of a valid call keeps the discipline.

**Proof sketch.** By cases on the call. The writing calls run a transaction that keeps the
discipline, and the others only ask. -/
lemma business_follows {call : AccountCall} (h : call.Valid) :
    call.business.Follows (callTransactions call) .idle (Concluded call) := by
  cases call with
  | addAccount request =>
    obtain ⟨account⟩ := request
    cases account with
    | none => exact h.elim
    | some account =>
      have hpublishes : (AccountCall.addAccount ⟨some account⟩).Publishes
          [insertAccount account, insertCredential account] := rfl
      refine Follows.map ((withTransaction_follows (addRows_follows h.2 hpublishes)).bind ?_)
      exact fun result phase hsettled => .pure (concluded_of_settled hsettled)
  | updateAccount request =>
    obtain ⟨account⟩ := request
    cases account with
    | none => exact h.elim
    | some account =>
      have hpublishes : (AccountCall.updateAccount ⟨some account⟩).Publishes
          (updateAccountRow account ::
            if account.password = "" then [] else [updateCredential account]) := rfl
      refine Follows.map ((withTransaction_follows (updateRows_follows h hpublishes)).bind ?_)
      exact fun result phase hsettled => .pure (concluded_of_settled hsettled)
  | getAccount request =>
    exact concluded_of_only rfl (Only.bind (getAccount_only _) fun _ => trivial)
  | listAccounts request =>
    exact concluded_of_only rfl (Only.bind (listAccounts_only _) fun _ => trivial)
  | getCredential request =>
    exact concluded_of_only rfl (Only.bind (getCredential_only _) fun _ => trivial)

/-- A call asks first whether the database is ready. Then it is refused, or it is valid and its
business is run. -/
lemma follows_serve {L : Type} {discipline : Discipline Call.Answer L} {l : L}
    {post : Status × AccountResponse → L → Prop} {call : AccountCall}
    (hallows : discipline.allows l .isReady)
    (hrefused : ∀ code, code ≠ ErrorCode.kSuccess → ∀ ready : Bool,
      post (toGrpcStatus code, call.blank) (discipline.next l .isReady ready))
    (hbusiness : call.Valid →
      call.business.Follows discipline (discipline.next l .isReady true) post) :
    (serve call).Follows discipline l post := by
  by_cases hvalid : call.Valid
  · rw [serve_of_valid hvalid]
    refine ⟨hallows, fun ready => ?_⟩
    cases ready with
    | false => exact hrefused .kSystemError (by decide) false
    | true => exact hbusiness hvalid
  · rw [serve_of_invalid hvalid]
    refine ⟨hallows, fun ready => ?_⟩
    cases ready with
    | false => exact hrefused .kSystemError (by decide) false
    | true => exact hrefused .kInternalError (by decide) true

/-- A call only asks if its business does. -/
lemma only_serve {call : AccountCall}
    (h : call.Valid → call.business.Only (Asks accountSchema)) :
    (serve call).Only (Asks accountSchema) := by
  by_cases hvalid : call.Valid
  · rw [serve_of_valid hvalid]
    refine ⟨trivial, fun ready => ?_⟩
    cases ready with
    | false => trivial
    | true => exact h hvalid
  · rw [serve_of_invalid hvalid]
    exact ⟨trivial, fun ready => by cases ready <;> trivial⟩

/-- Every call keeps the discipline of a connection, and a call that writes has published exactly
if it answers `OK`. -/
theorem serve_follows (call : AccountCall) :
    (serve call).Follows (callTransactions call) .idle (Concluded call) :=
  follows_serve ⟨nofun, trivial⟩ (fun _ hcode _ => concluded_refused call hcode _)
    business_follows

end AccountService
