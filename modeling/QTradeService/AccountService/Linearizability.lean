import QTradeService.AccountService.CredentialSnapshot
import QTradeService.Database.Commits
import QTradeService.Library.Linearization

set_option relaxedAutoImplicit false
set_option autoImplicit false

/-!
# The calls of the service side by side

Any number of calls of every kind, each on a connection of its own, statement by statement in any
order. Calls that are answered with `OK` take effect one at a time: the ones that write when they
commit, `GetAccount` and `ListAccounts` when they query. `GetCredential` queries twice and is left
out.

## Main definitions

* `AccountService.AccountCall.Reads`, `AccountService.AccountCall.Writes` — the calls that take
  effect at one moment.
* `AccountService.Point` — the step at which a call takes effect.

## Main results

* `AccountService.linearizable` — the directory answers the calls in the order of these steps as
  they were answered, and the tables represent it.
-/

namespace AccountService

open Sql Dao Database Grpc Program

/-- The calls that read the tables in one query. -/
def AccountCall.Reads : AccountCall → Prop
  | .getAccount _ | .listAccounts _ => True
  | .addAccount _ | .updateAccount _ | .getCredential _ => False

/-- The calls that change the tables. -/
def AccountCall.Writes : AccountCall → Prop
  | .addAccount _ | .updateAccount _ => True
  | .getAccount _ | .listAccounts _ | .getCredential _ => False

/-! ## Reading calls -/

/-- The text of the query for all accounts. -/
def accountsQuery : String :=
  selectText Dao.TradingAccount.tableName (buildTradingAccountValues {})

/-- What the query for all accounts asks. -/
lemma read_accountsQuery : read accountsQuery = some (.select Dao.TradingAccount.tableName []) :=
  (readable_select accountSchema_wordy tradingAccountTable_mem
    (fits_buildTradingAccountValues {})).1

/-- A reading call that is answered with `OK` has made one query, and its answer is made of the
rows. -/
def Consults (call : AccountCall) (answer : Status × AccountResponse)
    (seen : List (String × Option (List ResultRow))) : Prop :=
  answer.1 = .OK → ∃ sql conditions rows, seen = [(sql, some rows)] ∧
    read sql = some (.select Dao.TradingAccount.tableName conditions) ∧
    ∀ store, Answers store Dao.TradingAccount.tableName conditions rows →
      AccountStep False countFound store call answer store

/-- A failure is not answered with `OK`. -/
lemma respond_ne_OK {Response ServerData : Type} {wrap : Response → AccountResponse}
    {response : Response} {buildResponse : ServerData → Response → Response}
    {answer : Result Unit × ServerData} (hcode : answer.1.errorCode ≠ .kSuccess) :
    (respond wrap response buildResponse answer).1 ≠ .OK := by
  unfold respond
  rw [if_pos hcode]
  exact fun hOK => hcode (toGrpcStatus_eq_OK.mp hOK)

/-- `GetAccount` makes one query.

**Proof sketch.** The program selects once. If it answers with an account, that is read off a row
which the query has shown. -/
lemma getAccount_consults {accountId : String} (haccountId : accountId ≠ "") :
    (GetAccountHandler.executeBusiness ⟨accountId, {}⟩).Follows (record queried) []
      fun answer seen => Consults (.getAccount ⟨accountId⟩)
        (respond .getAccount ⟨none⟩ GetAccountHandler.buildResponse answer) seen := by
  refine ⟨trivial, fun acquired => ?_⟩
  cases acquired with
  | false => exact fun h => absurd h (respond_ne_OK nofun)
  | true =>
    refine (selectAccount_selected accountId _).bind fun result seen hselected => ?_
    by_cases hresult : result.errorCode = .kSuccess
    · rw [if_neg (not_not.mpr hresult)]
      obtain ⟨rows, hdata, rfl⟩ := hselected hresult
      rw [hdata, Option.getD_some]
      split
      · exact fun h => absurd h (respond_ne_OK nofun)
      · next record records hrecords =>
        intro _
        refine ⟨_, _, rows, rfl, read_accountQuery haccountId, fun store hanswers => ?_⟩
        have hmem : record ∈ rows.map buildTradingAccountRecord := by
          rw [hrecords]
          exact List.mem_cons_self ..
        obtain ⟨result, hresult, rfl⟩ := List.mem_map.mp hmem
        obtain ⟨row, hrow, hshows⟩ := hanswers.exists_shows tradingAccountTable_mem hresult
        rw [buildTradingAccountRecord_of_shows hshows]
        exact .got haccountId hrow
    · rw [if_pos hresult]
      exact fun h => absurd h (respond_ne_OK hresult)

/-- `ListAccounts` makes one query.

**Proof sketch.** The program selects once. If it answers with a list, that is read off the rows
which the query has shown. -/
lemma listAccounts_consults :
    (ListAccountsHandler.executeBusiness ⟨[]⟩).Follows (record queried) [] fun answer seen =>
      Consults (.listAccounts {}) (respond .listAccounts ⟨[]⟩ ListAccountsHandler.buildResponse
        answer) seen := by
  refine ⟨trivial, fun acquired => ?_⟩
  cases acquired with
  | false => exact fun h => absurd h (respond_ne_OK nofun)
  | true =>
    have hselect : (Dao.TradingAccount.select {}).Follows (record queried) []
        (Selected accountsQuery (List.map buildTradingAccountRecord) []) :=
      (selectRows_selected _ _ []).bind fun _ _ hselected =>
        hselected.follows buildTradingAccountRecord ""
    refine hselect.bind fun result seen hselected => ?_
    split
    · next accounts hcode hdata =>
      intro _
      obtain ⟨rows, hrows, rfl⟩ := hselected hcode
      obtain rfl := Option.some.inj (hdata.symm.trans hrows)
      refine ⟨_, _, rows, rfl, read_accountsQuery, fun store hanswers => ?_⟩
      obtain ⟨selected, hperm, hshows⟩ := hanswers tradingAccountTable tradingAccountTable_mem
      rw [map_buildTradingAccountRecord hshows]
      exact .listed hperm
    · next code data hdata =>
      by_cases hcode : result.errorCode = .kSuccess
      · obtain ⟨rows, hrows, -⟩ := hselected hcode
        exact absurd hrows (hdata _ hcode)
      · exact fun h => absurd h (respond_ne_OK hcode)

/-- A reading call makes one query. -/
lemma serve_consults {call : AccountCall} (hreads : call.Reads) :
    (serve call).Follows (record queried) [] (Consults call) := by
  refine follows_serve trivial
    (fun _ hcode _ hOK => absurd (toGrpcStatus_eq_OK.mp hOK) hcode) fun hvalid => ?_
  cases call with
  | getAccount request => exact Follows.map (getAccount_consults hvalid)
  | listAccounts request => exact Follows.map listAccounts_consults
  | addAccount | updateAccount | getCredential => exact hreads.elim

/-- A reading call only asks. -/
lemma serve_only {call : AccountCall} (hreads : call.Reads) :
    (serve call).Only (Asks accountSchema) := by
  refine only_serve fun _ => ?_
  cases call with
  | getAccount request => exact Only.bind (getAccount_only _) fun _ => trivial
  | listAccounts request => exact Only.bind (listAccounts_only _) fun _ => trivial
  | addAccount | updateAccount | getCredential => exact hreads.elim

/-! ## Writing calls -/

/-- The text of the first statement of `UpdateAccount`. -/
def updateText (account : TradingAccount) : String :=
  "UPDATE " ++ Dao.TradingAccount.tableName ++ " SET " ++
    buildAssignments (accountValues account) ++
    buildWhereSql (buildTradingAccountValues { accountId := some account.accountId })

/-- What the first statement of `UpdateAccount` does. -/
lemma read_updateText {account : TradingAccount} (haccountId : account.accountId ≠ "") :
    read (updateText account) = some (updateAccountRow account) := by
  unfold updateAccountRow
  rw [← conditionsOf_account haccountId]
  exact (readable_update accountSchema_wordy tradingAccountTable_mem
    (fits_buildTradingAccountValues (toTradingAccountRecord account))
    (fits_buildTradingAccountValues { accountId := some account.accountId }) nofun).1

/-- How a writing call ends that is answered with `OK`: an `UpdateAccount` has overwritten a row
first. -/
def Wrote (call : AccountCall) (answer : Status × AccountResponse)
    (seen : List (String × Option ℤ)) : Prop :=
  answer.1 = .OK → call.Valid ∧ answer.2 = call.blank ∧ ∀ account ∈ call.updated,
    ∃ affected later, affected ≠ 0 ∧ seen = (updateText account, some affected) :: later

/-- The first statement of `UpdateAccount` finds a row, or it fails. -/
def Overwrote (account : TradingAccount) (result : Result Unit)
    (seen : List (String × Option ℤ)) : Prop :=
  result.errorCode = .kSuccess →
    ∃ affected later, affected ≠ 0 ∧ seen = (updateText account, some affected) :: later

/-- A failure has overwritten nothing. -/
lemma rollbackAndFail_overwrote {account : TradingAccount} {code : ErrorCode} {message : String}
    (hcode : code ≠ .kSuccess) (seen : List (String × Option ℤ)) :
    (rollbackAndFail code message).Follows (record executed) seen (Overwrote account) :=
  ⟨trivial, fun _ h => absurd h hcode⟩

/-- `TradingAccount::Update` executes one statement. -/
lemma updateAccount_executed (account : TradingAccount) :
    (Dao.TradingAccount.update (toTradingAccountRecord account)
      { accountId := some account.accountId }).Follows (record executed) [] fun result seen =>
        result.errorCode = .kSuccess →
          ∃ affected, result.data = some affected ∧
            seen = [(updateText account, some affected)] := by
  refine ⟨trivial, fun connected => ?_⟩
  cases connected with
  | false => exact fun h => by cases h
  | true =>
    refine ⟨trivial, fun answer => ?_⟩
    cases answer with
    | none => exact ⟨trivial, fun _ h => by cases h⟩
    | some affected => exact fun _ => ⟨affected, rfl, rfl⟩

/-- The business of `UpdateAccount` overwrites a row first.

**Proof sketch.** By what the update reports and by its count. Whatever follows is appended to what
has been seen. -/
lemma updateRows_overwrote (account : TradingAccount) :
    (UpdateAccountHandler.updateRows ⟨account.password ≠ "", account.password,
      toTradingAccountRecord account⟩).Follows (record executed) [] (Overwrote account) := by
  refine (updateAccount_executed account).bind fun result seen hexecuted => ?_
  by_cases hresult : result.errorCode = .kSuccess
  · rw [if_neg (not_not.mpr hresult)]
    obtain ⟨affected, hdata, rfl⟩ := hexecuted hresult
    rw [hdata, Option.getD_some]
    by_cases haffected : affected = 0
    · rw [if_pos haffected]
      exact rollbackAndFail_overwrote (by decide) _
    · rw [if_neg haffected]
      refine (follows_record executed _ _).mono fun _ seen' hlater _ => ?_
      obtain ⟨later, rfl⟩ := hlater
      exact ⟨affected, later, haffected, rfl⟩
  · rw [if_pos hresult]
    exact rollbackAndFail_overwrote hresult _

/-- `UpdateAccount` overwrites a row first. -/
lemma updateAccount_overwrote (account : TradingAccount) :
    (UpdateAccountHandler.executeBusiness ⟨account.password ≠ "", account.password,
      toTradingAccountRecord account⟩).Follows (record executed) [] fun answer seen =>
        Overwrote account answer.1 seen := by
  have htransaction : (withTransaction (UpdateAccountHandler.updateRows
      ⟨account.password ≠ "", account.password, toTradingAccountRecord account⟩)).Follows
        (record executed) [] (Overwrote account) := by
    refine ⟨trivial, fun acquired => ?_⟩
    cases acquired with
    | false => exact fun h => by cases h
    | true =>
      refine ⟨trivial, fun begun => ?_⟩
      cases begun with
      | false => exact fun h => by cases h
      | true => exact updateRows_overwrote account
  exact htransaction.bind fun result seen h => h

/-- A writing call answers without data. -/
lemma respond_snd {Response ServerData : Type} {wrap : Response → AccountResponse}
    {response : Response} {buildResponse : ServerData → Response → Response}
    (hbuild : ∀ data, buildResponse data response = response)
    (answer : Result Unit × ServerData) :
    (respond wrap response buildResponse answer).2 = wrap response := by
  unfold respond
  split
  · rfl
  · rw [hbuild]

/-- How a writing call ends.

**Proof sketch.** By cases on the call. An `UpdateAccount` that is answered with `OK` went past its
first update. -/
lemma serve_wrote {call : AccountCall} (hwrites : call.Writes) :
    (serve call).Follows (record executed) [] (Wrote call) := by
  refine follows_serve trivial
    (fun _ hcode _ hOK => absurd (toGrpcStatus_eq_OK.mp hOK) hcode) fun hvalid => ?_
  cases call with
  | addAccount request =>
    obtain ⟨account⟩ := request
    cases account with
    | none => exact hvalid.elim
    | some account =>
      refine Follows.map ((follows_record executed _ _).mono fun answer seen _ _ => ?_)
      exact ⟨hvalid, respond_snd (fun _ => rfl) answer, nofun⟩
  | updateAccount request =>
    obtain ⟨account⟩ := request
    cases account with
    | none => exact hvalid.elim
    | some account =>
      refine Follows.map ((updateAccount_overwrote account).mono fun answer seen h hOK => ?_)
      refine ⟨hvalid, respond_snd (fun _ => rfl) answer, fun account' haccount' => ?_⟩
      obtain rfl := Option.some.inj haccount'
      exact h (by_contra fun hcode => respond_ne_OK hcode hOK)
  | getAccount | listAccounts | getCredential => exact hwrites.elim

/-! ## Published transactions -/

section

variable {store store₁ store₂ : Store accountSchema} {account : TradingAccount}
  {accountId : String}

/-- The statements of `UpdateAccount`, one after the other.

**Proof sketch.** By whether there is a password, and so a second statement. -/
lemma exec_of_replay_update
    (h : store.replay (updateAccountRow account ::
      if account.password = "" then [] else [updateCredential account]) = some store₂) :
    ∃ store₁, store.exec (updateAccountRow account) = some store₁ ∧
      if account.password = "" then store₂ = store₁
      else store₁.exec (updateCredential account) = some store₂ := by
  rw [Store.replay_cons] at h
  obtain ⟨store₁, haccount, hrest⟩ := Option.bind_eq_some_iff.mp h
  refine ⟨store₁, haccount, ?_⟩
  split at hrest
  · next hpassword =>
    rw [if_pos hpassword]
    exact (Option.some.inj hrest).symm
  · next hpassword =>
    rw [if_neg hpassword]
    rw [Store.replay_cons] at hrest
    obtain ⟨store', hcredential, hdone⟩ := Option.bind_eq_some_iff.mp hrest
    obtain rfl := Option.some.inj hdone
    exact hcredential

/-- An account that is inserted was not there. -/
lemma accountRows_of_insertAccount (h : store.exec (insertAccount account) = some store₁) :
    accountRows store account.accountId = [] := by
  have hlength := length_accountRows_le store₁ account.accountId
  rw [accountRows_insertAccount h, if_pos rfl, List.length_append, List.length_singleton] at hlength
  exact List.length_eq_zero_iff.mp (by omega)

/-- The transaction of a call leaves the accounts that are there.

**Proof sketch.** By cases on the call. An insert appends rows, and an update overwrites rows
without removing any. -/
lemma accountRows_of_publishes {call : AccountCall} {journal : List Statement}
    (hpublishes : call.Publishes journal) (hreplay : store.replay journal = some store₂)
    (hrows : accountRows store accountId ≠ []) : accountRows store₂ accountId ≠ [] := by
  cases call with
  | addAccount request =>
    obtain ⟨account⟩ := request
    cases account with
    | none => exact hpublishes.elim
    | some account =>
      obtain rfl : journal = addStatements account := hpublishes
      obtain ⟨store₁, haccount, hcredential⟩ := exec_of_replay_addStatements hreplay
      rw [accountRows_added haccount hcredential]
      exact List.append_ne_nil_of_left_ne_nil hrows _
  | updateAccount request =>
    obtain ⟨account⟩ := request
    cases account with
    | none => exact hpublishes.elim
    | some account =>
      rw [show journal = _ from hpublishes] at hreplay
      obtain ⟨store₁, haccount, hcredential⟩ := exec_of_replay_update hreplay
      have hkept : accountRows store₁ accountId ≠ [] := by
        rw [accountRows_updateAccountRow haccount]
        split
        · exact mt List.map_eq_nil_iff.mp hrows
        · exact hrows
      split at hcredential
      · rw [hcredential]
        exact hkept
      · rw [accountRows_of_credential hcredential rfl]
        exact hkept
  | getAccount | listAccounts | getCredential => exact hpublishes.elim

/-- An update finds the rows that its condition selects. -/
lemma affects_of_select {name : String} {assignments conditions : KeyValues}
    (hrows : store.select name conditions ≠ []) :
    Affects countFound (.update name assignments conditions) store := by
  refine ⟨_, rfl, fun hnone => hrows ?_⟩
  have hcount : (store.rows name).countP (fun row => row.satisfies conditions) = 0 :=
    Int.natCast_eq_zero.mp hnone
  rw [List.countP_eq_length_filter] at hcount
  exact List.length_eq_zero_iff.mp hcount

end

/-! ## Runs -/

section

variable {κ : Type} [DecidableEq κ] {counting : Counting} {calls : κ → AccountCall}
  {store : Store accountSchema} {clients : Callers κ}
  {before after events : List (Event Call.Answer κ (Shared accountSchema κ))}
  {event : Event Call.Answer κ (Shared accountSchema κ)} {accountId : String}

/-- An account that is committed stays.

**Proof sketch.** What was published is replayed on the committed tables, and no published
transaction removes an account. -/
lemma accountRows_of_run {phase : κ → Phase} {post : κ → Status × AccountResponse → Phase → Prop}
    {start : Callers κ}
    (h : Disciplined (fun client => (calls client).Publishes) post start phase)
    (hrun : Interleaving (fun client call s => Shared.Serves counting client call s) start events
      clients) (hrows : accountRows start.shared.committed accountId ≠ []) :
    accountRows clients.shared.committed accountId ≠ [] := by
  obtain ⟨published, hpublished⟩ := h.exists_published hrun
  have hreplay := hpublished.replay
  have hallowed := hpublished.allowed
  clear hpublished
  generalize start.shared.committed = store at hreplay hrows
  induction published generalizing store with
  | nil =>
    obtain rfl := Option.some.inj hreplay
    exact hrows
  | cons entry published ih =>
    rw [List.flatMap_cons, Store.replay_append] at hreplay
    obtain ⟨store₁, hfirst, hrest⟩ := Option.bind_eq_some_iff.mp hreplay
    obtain ⟨hentry, hpublished⟩ := List.forall_mem_cons.mp hallowed
    exact ih hpublished store₁ hrest (accountRows_of_publishes hentry hfirst hrows)

omit [DecidableEq κ] in
/-- A commit executes nothing. -/
lemma executed_of_commits {call : Call} {answer : call.Answer}
    (h : commits call answer = true) : executed call answer = none := by
  cases call with
  | commitTransaction => rfl
  | isReady | acquire | isConnected | lastError | beginTransaction | rollbackTransaction | execute
  | query => cases h

/-- When an `UpdateAccount` commits, the account is there.

**Proof sketch.** Its first statement found the account in the committed rows, and an account that
is committed stays. -/
lemma accountRows_of_commit {account : TradingAccount}
    (hrun : SideBySide counting calls store (before ++ event :: after) clients)
    (hcommits : commits event.call event.answer = true)
    (hcall : calls event.client = .updateAccount ⟨some account⟩) :
    accountRows event.before.committed account.accountId ≠ [] := by
  have hstart := disciplined_callers calls store
  obtain ⟨⟨status, response⟩, journal, hdone, hconcluded, -, -, hsilent⟩ :=
    hstart.replay_of_commits hrun hcommits
  obtain rfl : status = .OK := by
    rcases hconcluded with ⟨hOK, -⟩ | ⟨-, hidle⟩
    · exact hOK
    · cases hidle
  have hwrites : (calls event.client).Writes := by
    rw [hcall]
    trivial
  have hwrote := hrun.follows (serve_wrote hwrites)
  rw [hdone, after_record, List.nil_append] at hwrote
  obtain ⟨hvalid, -, hupdate⟩ := hwrote rfl
  rw [hcall] at hvalid hupdate
  obtain ⟨affected, later, haffected, hseen⟩ := hupdate account rfl
  -- the first statement of the client stands before its commit
  have hnone : ((event :: after).filterMap fun e =>
      if e.client = event.client then executed e.call e.answer else none) = [] := by
    rw [List.filterMap_eq_nil_iff]
    intro e he
    rcases List.mem_cons.mp he with rfl | he
    · rw [if_pos rfl, executed_of_commits hcommits]
    · exact if_neg (hsilent e he)
  rw [List.filterMap_append, hnone, List.append_nil] at hseen
  obtain ⟨earlier, first, between, rfl, hearlier, hfirst, -⟩ :=
    List.filterMap_eq_cons_iff.mp hseen
  obtain ⟨mover, call, answer, s, s'⟩ := first
  obtain rfl : mover = event.client := by
    by_contra hne
    rw [if_neg hne] at hfirst
    cases hfirst
  rw [if_pos rfl] at hfirst
  cases call with
  | execute sql =>
    cases hfirst
    rw [List.append_assoc, List.cons_append] at hrun
    have hreports := reports_of_first hrun rfl
      (fun e he hclient => by simpa [hclient] using hearlier e he) (read_updateText hvalid)
    have hrows := accountRows_ne_nil_of_affects ⟨affected, hreports, haffected⟩
    obtain ⟨middle, hbefore, rfl, hrest⟩ := hrun.split_run
    rw [← List.cons_append] at hrest
    obtain ⟨middle', hbetween, hshared, -⟩ := hrest.split_run
    rw [← hshared]
    exact accountRows_of_run (hstart.interleaving hbefore) hbetween hrows
  | isReady | acquire | isConnected | lastError | beginTransaction | commitTransaction
  | rollbackTransaction | query => cases hfirst

/-- When a call commits, it does to the tables what the call does on its own, and it is answered
with `OK`.

**Proof sketch.** The discipline of the programs says which journal the call publishes and that it
ends with `OK`; replaying this journal is what the call does on its own. An `UPDATE` finds a row
since the client has seen its count. -/
lemma step_of_commits
    (hrun : SideBySide counting calls store (before ++ event :: after) clients)
    (hcommits : commits event.call event.answer = true) :
    ∃ answer, clients.programs event.client = .pure answer ∧ answer.1 = .OK ∧
      (calls event.client).Writes ∧
      ∀ directory, Represents event.before.committed directory →
        AccountStep False countFound event.before.committed (calls event.client) answer
          event.after.committed := by
  obtain ⟨⟨status, response⟩, journal, hdone, hconcluded, hpublishes, hreplay, -⟩ :=
    (disciplined_callers calls store).replay_of_commits hrun hcommits
  obtain rfl : status = .OK := by
    rcases hconcluded with ⟨hOK, -⟩ | ⟨-, hidle⟩
    · exact hOK
    · cases hidle
  have hwrites : (calls event.client).Writes := by
    cases hcall : calls event.client with
    | addAccount | updateAccount => trivial
    | getAccount | listAccounts | getCredential =>
      rw [hcall] at hpublishes
      exact hpublishes.elim
  have hwrote := hrun.follows (serve_wrote hwrites)
  rw [hdone] at hwrote
  obtain ⟨hvalid, hresponse, -⟩ := hwrote rfl
  obtain rfl : response = (calls event.client).blank := hresponse
  refine ⟨_, hdone, rfl, hwrites, fun directory h => ?_⟩
  cases hcall : calls event.client with
  | addAccount request =>
    rw [hcall] at hpublishes hvalid
    obtain ⟨account⟩ := request
    cases account with
    | none => exact hpublishes.elim
    | some account =>
      obtain rfl : journal = addStatements account := hpublishes
      obtain ⟨store₁, haccount, hcredential⟩ := exec_of_replay_addStatements hreplay
      exact .added hvalid (accountRows_of_insertAccount haccount) haccount hcredential
  | updateAccount request =>
    rw [hcall] at hpublishes hvalid
    obtain ⟨account⟩ := request
    cases account with
    | none => exact hpublishes.elim
    | some account =>
      rw [show journal = _ from hpublishes] at hreplay
      obtain ⟨store₁, haccount, hcredential⟩ := exec_of_replay_update hreplay
      have hrows := accountRows_of_commit hrun hcommits hcall
      refine .updated hvalid haccount (affects_of_select hrows) ?_
      split
      · next hpassword =>
        rw [if_pos hpassword] at hcredential
        exact hcredential
      · next hpassword =>
        rw [if_neg hpassword] at hcredential
        refine ⟨hcredential, affects_of_select ?_⟩
        rw [Store.select_exec_of_ne haccount credentialTable_ne]
        exact mt (fun hnone => h.accountRows_eq_nil.mpr (h.passwordRows_eq_nil.mp hnone)) hrows
  | getAccount | listAccounts | getCredential =>
    rw [hcall] at hwrites
    exact hwrites.elim

/-- When a reading call queries, it does what the call does on its own.

**Proof sketch.** The client makes one query, so that this is the one which its answer is read off,
and it is answered from the committed tables, which a query leaves alone. -/
lemma step_of_query {response : AccountResponse}
    (hrun : SideBySide counting calls store (before ++ event :: after) clients)
    (hquery : (queryOf event.client event).isSome) (hreads : (calls event.client).Reads)
    (hdone : clients.programs event.client = .pure (.OK, response)) :
    AccountStep False countFound event.before.committed (calls event.client) (.OK, response)
      event.after.committed := by
  have hconsults := hrun.follows (serve_consults hreads)
  rw [hdone, after_record, List.nil_append] at hconsults
  obtain ⟨sql, conditions, rows, hseen, hread, hstep⟩ := hconsults rfl
  obtain ⟨entry, hentry⟩ := Option.isSome_iff_exists.mp hquery
  -- the only query that the client has made
  have hmem : entry ∈ [(sql, some rows)] := by
    rw [← hseen]
    refine List.mem_filterMap.mpr ⟨event, ?_, hentry⟩
    exact List.mem_append_right _ (List.mem_cons_self ..)
  obtain rfl := List.mem_singleton.mp hmem
  obtain ⟨mover, call, answer, s, s'⟩ := event
  rw [queryOf, if_pos rfl] at hentry
  cases call with
  | query sql' =>
    cases hentry
    have hsame : s'.committed = s.committed :=
      (disciplined_callers calls store).committed_eq hrun rfl
    show AccountStep False countFound s.committed _ _ s'.committed
    rw [hsame]
    exact hstep _ (answers_of_only hrun (serve_only hreads) rfl hread)
  | isReady | acquire | isConnected | lastError | beginTransaction | commitTransaction
  | rollbackTransaction | execute => cases hentry

/-- The call takes effect at one moment, and it is answered with `OK`. -/
def Completed (calls : κ → AccountCall) (client : κ) (answer : Status × AccountResponse) : Prop :=
  ((calls client).Writes ∨ (calls client).Reads) ∧ answer.1 = .OK

/-- The step at which a call takes effect: a call that writes commits, and a call that reads, and
is answered with `OK` in the end, queries. -/
def Point (calls : κ → AccountCall) (clients : Callers κ)
    (event : Event Call.Answer κ (Shared accountSchema κ)) : Prop :=
  commits event.call event.answer = true ∨
    (queryOf event.client event).isSome ∧ (calls event.client).Reads ∧
      ∃ response, clients.programs event.client = .pure (.OK, response)

/-- What a call does at its point. -/
lemma step_of_point (hrun : SideBySide counting calls store (before ++ event :: after) clients)
    (hpoint : Point calls clients event) :
    ∃ answer, clients.programs event.client = .pure answer ∧ answer.1 = .OK ∧
      ((calls event.client).Writes ∨ (calls event.client).Reads) ∧
      ∀ directory, Represents event.before.committed directory →
        AccountStep False countFound event.before.committed (calls event.client) answer
          event.after.committed := by
  rcases hpoint with hcommits | ⟨hquery, hreads, response, hdone⟩
  · obtain ⟨answer, hdone, hOK, hwrites, hstep⟩ := step_of_commits hrun hcommits
    exact ⟨answer, hdone, hOK, .inl hwrites, hstep⟩
  · exact ⟨_, hdone, rfl, .inr hreads, fun _ _ => step_of_query hrun hquery hreads hdone⟩

/-- A call that is answered with `OK` has a point.

**Proof sketch.** A writing call that is answered with `OK` has published, and so committed at some
event. A reading call has made its one query. -/
lemma exists_point (hrun : SideBySide counting calls store events clients) {client : κ}
    {response : AccountResponse}
    (hkind : (calls client).Writes ∨ (calls client).Reads)
    (hdone : clients.programs client = .pure (.OK, response)) :
    ∃ event ∈ events, Point calls clients event ∧ event.client = client := by
  rcases hkind with hwrites | hreads
  · have hwrote := hrun.follows (serve_wrote hwrites)
    rw [hdone] at hwrote
    obtain ⟨hvalid, -⟩ := hwrote rfl
    have hnow := (disciplined_callers calls store).interleaving hrun
    rcases hnow.post_of_done hdone with ⟨-, journal, hphase, -⟩ | ⟨hrefused, -⟩
    · obtain ⟨event, hevent, hclient, hcommits⟩ := exists_commits hphase nofun
      exact ⟨event, hevent, .inl hcommits, hclient⟩
    · refine absurd rfl (hrefused ?_)
      cases hcall : calls client with
      | addAccount request | updateAccount request =>
        rw [hcall] at hvalid
        obtain ⟨account⟩ := request
        cases account with
        | none => exact hvalid.elim
        | some account => rfl
      | getAccount | listAccounts | getCredential =>
        rw [hcall] at hwrites
        exact hwrites.elim
  · have hconsults := hrun.follows (serve_consults hreads)
    rw [hdone, after_record, List.nil_append] at hconsults
    obtain ⟨sql, conditions, rows, hseen, -⟩ := hconsults rfl
    have hmem : (sql, some rows) ∈ events.filterMap (queryOf client) :=
      hseen ▸ List.mem_singleton_self _
    obtain ⟨event, hevent, hquery⟩ := List.mem_filterMap.mp hmem
    have hclient : event.client = client := by
      by_contra hne
      rw [queryOf, if_neg hne] at hquery
      cases hquery
    subst hclient
    exact ⟨event, hevent, .inr ⟨by rw [hquery]; rfl, hreads, response, hdone⟩, rfl⟩

/-- A call has one point: it commits at most once, and a reading call that is answered with `OK`
has made one query.

**Proof sketch.** After the commit of a client no other event is its own. A reading call makes one
query, and a call that queries alone does not commit. -/
lemma point_unique (hrun : SideBySide counting calls store events clients)
    {event event' : Event Call.Answer κ (Shared accountSchema κ)}
    (horder : [event, event'].Sublist events) (hpoint : Point calls clients event)
    (hpoint' : Point calls clients event') : event.client ≠ event'.client := by
  intro hclient
  obtain ⟨early, late, rfl, hearly, hlate⟩ := List.cons_sublist_iff.mp horder
  obtain ⟨before, between, rfl⟩ := List.append_of_mem hearly
  obtain ⟨between', after, rfl⟩ := List.append_of_mem (List.singleton_sublist.mp hlate)
  rcases hpoint with hcommits | ⟨hquery, hreads, response, hdone⟩
  · rw [List.append_assoc, List.cons_append] at hrun
    obtain ⟨-, -, -, -, -, -, hsilent⟩ :=
      (disciplined_callers calls store).replay_of_commits hrun hcommits
    exact hsilent event' (by simp) hclient.symm
  · rcases hpoint' with hcommits | ⟨hquery', -⟩
    · rw [← List.append_assoc] at hrun
      obtain ⟨-, -, -, hwrites, -⟩ := step_of_commits hrun hcommits
      rw [← hclient] at hwrites
      cases hcall : calls event.client with
      | addAccount | updateAccount | getCredential =>
        rw [hcall] at hreads
        exact hreads.elim
      | getAccount | listAccounts =>
        rw [hcall] at hwrites
        exact hwrites.elim
    · have hconsults := hrun.follows (serve_consults hreads)
      rw [hdone, after_record, List.nil_append] at hconsults
      obtain ⟨sql, conditions, rows, hseen, -⟩ := hconsults rfl
      rw [← hclient] at hquery'
      obtain ⟨entry, hentry⟩ := Option.isSome_iff_exists.mp hquery
      obtain ⟨entry', hentry'⟩ := Option.isSome_iff_exists.mp hquery'
      have htwo : [entry, entry'].Sublist [(sql, some rows)] := by
        rw [← hseen, show [entry, entry'] = [event, event'].filterMap (queryOf event.client) by
          rw [List.filterMap_cons_some hentry, List.filterMap_cons_some hentry',
            List.filterMap_nil]]
        exact horder.filterMap _
      exact absurd htwo.length_le (by simp)

open Classical in
/-- The steps at which the calls take effect. -/
noncomputable def pointsOf (calls : κ → AccountCall) (clients : Callers κ)
    (events : List (Event Call.Answer κ (Shared accountSchema κ))) :
    List (Event Call.Answer κ (Shared accountSchema κ)) :=
  events.filter (Point calls clients)

/-- The points are the steps at which the calls take effect.

**Proof sketch.** At the points the tables change, or are read, as by the call on its own, and no
other step changes them. -/
lemma linearizes_pointsOf (hrun : SideBySide counting calls store events clients)
    {directory : Directory} (h : Represents store directory) :
    Linearizes Directory.machine directory calls (Completed calls) Agrees events clients
        (pointsOf calls clients events) ∧
      Represents clients.shared.committed
        (Directory.machine.final (requested calls (pointsOf calls clients events)) directory) := by
  have hpoint (before : List (Event Call.Answer κ (Shared accountSchema κ)))
      (event : Event Call.Answer κ (Shared accountSchema κ))
      (after : List (Event Call.Answer κ (Shared accountSchema κ)))
      (hsplit : events = before ++ event :: after) (hpoint : Point calls clients event) :
      ∃ answer, clients.programs event.client = .pure answer ∧
        Completed calls event.client answer ∧
        ∀ directory', Represents event.before.committed directory' →
          Agrees answer (Directory.machine.step (calls event.client) directory').1 ∧
          Represents event.after.committed
            (Directory.machine.step (calls event.client) directory').2 := by
    rw [hsplit] at hrun
    obtain ⟨answer, hdone, hOK, hkind, hstep⟩ := step_of_point hrun hpoint
    refine ⟨answer, hdone, ⟨hkind, hOK⟩, fun directory' h' => ?_⟩
    cases represents_step h' (hstep directory' h') with
    | refused hstatus => exact absurd hOK hstatus
    | answered _ hagrees hrepresents => exact ⟨hagrees, hrepresents⟩
  have hother (before : List (Event Call.Answer κ (Shared accountSchema κ)))
      (event : Event Call.Answer κ (Shared accountSchema κ))
      (after : List (Event Call.Answer κ (Shared accountSchema κ)))
      (hsplit : events = before ++ event :: after) (hpoint : ¬Point calls clients event)
      (directory' : Directory) (h' : Represents event.before.committed directory') :
      Represents event.after.committed directory' := by
    rw [hsplit] at hrun
    rw [(disciplined_callers calls store).committed_eq hrun
      (Bool.eq_false_iff.mpr fun hcommits => hpoint (.inl hcommits))]
    exact h'
  classical
  refine hrun.linearizes_filter (R := fun s directory => Represents s.committed directory) h
    hpoint hother ?_ ?_
  · rintro client ⟨status, response⟩ hdone ⟨hkind, hOK⟩
    obtain rfl : status = .OK := hOK
    exact exists_point hrun hkind hdone
  · exact List.pairwise_iff_forall_sublist.mpr fun horder hpoint hpoint' =>
      point_unique hrun horder hpoint hpoint'

/-- **The calls take effect one at a time.** In every run of any calls side by side there are
steps, one for each call other than `GetCredential` that is answered with `OK`, such that the
directory answers these calls in the order of their steps as they were answered; the tables
represent the directory after them.

**Proof sketch.** A call that writes takes effect when it commits, a call that reads when it
queries. -/
theorem linearizable (hrun : SideBySide counting calls store events clients)
    {directory : Directory} (h : Represents store directory) :
    ∃ points, Linearizes Directory.machine directory calls (Completed calls) Agrees events clients
        points ∧
      Represents clients.shared.committed
        (Directory.machine.final (requested calls points) directory) :=
  ⟨_, linearizes_pointsOf hrun h⟩

end

namespace Sample

/-- An account is added and updated, and read by two clients. -/
def fourCalls : Fin 4 → AccountCall
  | 0 => .addAccount ⟨some ⟨"acc", "ctp", "p1", "tcp://a", ""⟩⟩
  | 1 => .updateAccount ⟨some ⟨"acc", "ctp", "", "tcp://b", ""⟩⟩
  | 2 => .getAccount ⟨"acc"⟩
  | 3 => .listAccounts {}

/-- One client reads before the update commits, and the other one after it. -/
def busy : List (Event Call.Answer (Fin 4) (Shared accountSchema (Fin 4))) × Callers (Fin 4) :=
  schedule Shared.serve
    (List.replicate 10 0 ++ List.replicate 5 1 ++ List.replicate 4 2 ++ List.replicate 3 3 ++
      [1, 3])
    (callers fourCalls .empty)

end Sample

set_option maxRecDepth 2000 in
/-- The answers of a run in which calls overlap. -/
theorem linearizable_sample :
    Sample.busy.2.result 1 = some (.OK, .updateAccount {}) ∧
    Sample.busy.2.result 2 =
      some (.OK, .getAccount ⟨some ⟨"acc", "ctp", "", "tcp://a", "active"⟩⟩) ∧
    Sample.busy.2.result 3 =
      some (.OK, .listAccounts ⟨[⟨"acc", "ctp", "", "tcp://b", "active"⟩]⟩) ∧
    ∃ points, Linearizes Directory.machine Directory.empty Sample.fourCalls
        (Completed Sample.fourCalls) Agrees Sample.busy.1 Sample.busy.2 points ∧
      Represents Sample.busy.2.shared.committed
        (Directory.machine.final (requested Sample.fourCalls points) Directory.empty) := by
  have ⟨hupdate, hget, hlist⟩ : Sample.busy.2.result 1 = some (.OK, .updateAccount {}) ∧
      Sample.busy.2.result 2 =
        some (.OK, .getAccount ⟨some ⟨"acc", "ctp", "", "tcp://a", "active"⟩⟩) ∧
      Sample.busy.2.result 3 =
        some (.OK, .listAccounts ⟨[⟨"acc", "ctp", "", "tcp://b", "active"⟩]⟩) := by
    decide +kernel
  exact ⟨hupdate, hget, hlist,
    linearizable (interleaving_schedule Shared.serves_serve _ _) represents_empty⟩

end AccountService
