import QTradeService.AccountService.ConcurrentAdds

set_option relaxedAutoImplicit false
set_option autoImplicit false

/-!
# Credentials that are read while accounts are updated

`GetCredential` reads the account and the password in two queries outside a transaction. An
`UpdateAccount` changes both in one transaction, which may be published between the two queries:
the answer is then the old login data with the new password, also if the same transaction disables
the account.

## Main definitions

* `AccountService.Gives` — the committed rows give a credential.
* `AccountService.Snapshot` — one committed state of a run gives a credential.
* `AccountService.Untorn` — the last change of the password between the two queries leaves the
  account enabled and its login data as the first query found them.

## Main results

* `AccountService.snapshot_of_untorn`.
* `AccountService.credential_torn` — the other runs.
-/

namespace AccountService

open Sql Dao Database Grpc Program

/-! ## Committed states -/

/-- The login data of an account: broker and connection. -/
def loginOf (store : Store accountSchema) (accountId : String) :
    List (Option String × Option String) :=
  (accountRows store accountId).map fun row => (row "broker_id", row "connection_string")

/-- The passwords of an account. -/
def passwordsOf (store : Store accountSchema) (accountId : String) : List (Option String) :=
  (store.select AccountCredential.tableName (passwordOf accountId)).map fun row =>
    row "ciphertext"

/-- No row of the account is disabled. -/
def Enabled (store : Store accountSchema) (accountId : String) : Prop :=
  ∀ row ∈ accountRows store accountId, row "status" ≠ some "disabled"

/-- The rows of an account give the credential, and the account is not disabled. -/
def Gives (store : Store accountSchema) (credential : CredentialMaterial) : Prop :=
  (∃ row ∈ accountRows store credential.accountId,
    (row "broker_id").getD "" = credential.brokerId ∧
    (row "connection_string").getD "" = credential.connectionString ∧
    row "status" ≠ some "disabled") ∧
  some credential.password ∈ passwordsOf store credential.accountId

instance (store : Store accountSchema) (accountId : String) :
    Decidable (Enabled store accountId) :=
  inferInstanceAs (Decidable (∀ row ∈ accountRows store accountId, _))

instance (store : Store accountSchema) (credential : CredentialMaterial) :
    Decidable (Gives store credential) :=
  inferInstanceAs (Decidable (_ ∧ _))

section

variable {κ : Type}

/-- The states that were committed in a run. -/
def committedStates (store : Store accountSchema)
    (events : List (Event Call.Answer κ (Shared accountSchema κ))) : List (Store accountSchema) :=
  store :: events.map fun event => event.after.committed

/-- One committed state of the run gives the credential. -/
def Snapshot (store : Store accountSchema)
    (events : List (Event Call.Answer κ (Shared accountSchema κ)))
    (credential : CredentialMaterial) : Prop :=
  ∃ committed ∈ committedStates store events, Gives committed credential

instance (store : Store accountSchema)
    (events : List (Event Call.Answer κ (Shared accountSchema κ)))
    (credential : CredentialMaterial) : Decidable (Snapshot store events credential) :=
  inferInstanceAs (Decidable (∃ committed ∈ committedStates store events, _))

end

/-! ## Queries -/

/-- The text of a query and its answer. -/
def queried : (call : Call) → call.Answer → Option (String × Option (List ResultRow))
  | .query sql, answer => some (sql, answer)
  | .isReady, _ | .acquire _, _ | .isConnected, _ | .lastError, _ | .beginTransaction, _
  | .commitTransaction, _ | .rollbackTransaction, _ | .execute _, _ => none

/-- The text of a selection. -/
def selectText (name : String) (whereValues : KeyValues) : String :=
  "SELECT * FROM " ++ name ++ buildWhereSql whereValues

/-- A selection that succeeds has made one query. -/
def Selected {α : Type} (sql : String) (read : List ResultRow → α)
    (seen : List (String × Option (List ResultRow))) (result : Result α)
    (seen' : List (String × Option (List ResultRow))) : Prop :=
  result.errorCode = .kSuccess →
    ∃ rows, result.data = some (read rows) ∧ seen' = seen ++ [(sql, some rows)]

/-- A failure is reported. -/
lemma dbFailureResult_selected {α : Type} {sql : String} {read : List ResultRow → α}
    {seen seen' : List (String × Option (List ResultRow))} :
    (dbFailureResult : Db (Result α)).Follows (record queried) seen'
      (Selected sql read seen) :=
  ⟨trivial, fun _ => nofun⟩

/-- `SelectRows` makes one query.

**Proof sketch.** Without a connection, or without an answer, there is no data. Otherwise the query
and its rows are what has been recorded. -/
lemma selectRows_selected (name : String) (whereValues : KeyValues)
    (seen : List (String × Option (List ResultRow))) :
    (selectRows name whereValues).Follows (record queried) seen
      (Selected (selectText name whereValues) id seen) := by
  refine ⟨trivial, fun connected => ?_⟩
  cases connected with
  | false => exact fun h => by cases h
  | true =>
    refine ⟨trivial, fun answer => ?_⟩
    cases answer with
    | none => exact dbFailureResult_selected
    | some rows =>
      intro _
      refine ⟨rows, rfl, ?_⟩
      simp [record, queried, selectText]

/-- The rows of a selection, turned into records. -/
lemma Selected.follows {Record : Type} {sql : String}
    {seen seen' : List (String × Option (List ResultRow))} {result : Result (List ResultRow)}
    (h : Selected sql id seen result seen') (build : ResultRow → Record) (message : String) :
    (match result.errorCode, result.data with
      | .kSuccess, some rows => return ⟨.kSuccess, "", some (rows.map build)⟩
      | errorCode, _ => return .void errorCode message :
      Db (Result (List Record))).Follows (record queried) seen'
        (Selected sql (List.map build) seen) := by
  split
  · next rows hcode hdata =>
    intro _
    obtain ⟨rows', hrows, hseen⟩ := h hcode
    obtain rfl := Option.some.inj (hdata.symm.trans hrows)
    exact ⟨rows, rfl, hseen⟩
  · next code data hdata =>
    intro hcode
    obtain ⟨rows, hrows, -⟩ := h hcode
    exact absurd hrows (hdata rows hcode)

/-- The text of the query for an account. -/
def accountQuery (accountId : String) : String :=
  selectText Dao.TradingAccount.tableName
    (buildTradingAccountValues { accountId := some accountId })

/-- The text of the query for the password of an account. -/
def credentialQuery (accountId : String) : String :=
  selectText AccountCredential.tableName
    (buildAccountCredentialValues
      { accountId := some accountId, credentialType := some .kPassword })

/-- What the query for an account asks. -/
lemma read_accountQuery {accountId : String} (haccountId : accountId ≠ "") :
    read (accountQuery accountId) =
      some (.select Dao.TradingAccount.tableName (accountIs accountId)) := by
  rw [← conditionsOf_account haccountId]
  exact (readable_select accountSchema_wordy tradingAccountTable_mem
    (fits_buildTradingAccountValues _)).1

/-- What the query for the password of an account asks. -/
lemma read_credentialQuery {accountId : String} (haccountId : accountId ≠ "") :
    read (credentialQuery accountId) =
      some (.select AccountCredential.tableName (passwordOf accountId)) := by
  rw [← conditionsOf_password haccountId]
  exact (readable_select accountSchema_wordy accountCredentialTable_mem
    (fits_buildAccountCredentialValues _)).1

/-- `TradingAccount::Select` of an account makes one query. -/
lemma selectAccount_selected (accountId : String)
    (seen : List (String × Option (List ResultRow))) :
    (Dao.TradingAccount.select { accountId := some accountId }).Follows (record queried) seen
      (Selected (accountQuery accountId) (List.map buildTradingAccountRecord) seen) :=
  (selectRows_selected _ _ seen).bind fun _ _ hselected =>
    hselected.follows buildTradingAccountRecord ""

/-- `AccountCredential::Select` of the password of an account makes one query. -/
lemma selectPassword_selected (accountId : String)
    (seen : List (String × Option (List ResultRow))) :
    (AccountCredential.select
        { accountId := some accountId, credentialType := some .kPassword }).Follows
      (record queried) seen
      (Selected (credentialQuery accountId) (List.map buildAccountCredentialRecord) seen) :=
  (selectRows_selected _ _ seen).bind fun result _ hselected =>
    hselected.follows buildAccountCredentialRecord result.errorMessage

/-! ## What an answer is made of -/

/-- The result rows that an answer of `GetCredential` is made of. -/
structure Composed (credential : CredentialMaterial) (accounts passwords : List ResultRow) :
    Prop where
  account : ∃ account ∈ accounts.map buildTradingAccountRecord,
    account.brokerId.getD "" = credential.brokerId ∧
    account.connectionString.getD "" = credential.connectionString ∧
    account.status.getD "" ≠ "disabled"
  password : ∃ password ∈ passwords.map buildAccountCredentialRecord,
    password.ciphertext = some credential.password

/-- What `GetCredential` has queried if it succeeds. -/
def Fetched (accountId : String) (answer : Result Unit × GetCredentialServerData)
    (seen : List (String × Option (List ResultRow))) : Prop :=
  answer.1.errorCode = .kSuccess →
    ∃ accounts passwords,
      seen = [(accountQuery accountId, some accounts),
        (credentialQuery accountId, some passwords)] ∧
      ∃ credential, credential.accountId = accountId ∧ Composed credential accounts passwords ∧
        GetCredentialHandler.buildResponse answer.2 ⟨none⟩ = ⟨some credential⟩

/-- A decrypted password is the stored one. -/
lemma decryptCredential_eq_some {keyId ciphertext password : String}
    (h : decryptCredential keyId ciphertext = some password) : ciphertext = password := by
  unfold decryptCredential at h
  split at h
  · cases h
  · exact Option.some.inj h

/-- The second half of `GetCredential` queries the password.

**Proof sketch.** Along the program: a password is given out only if the query has answered with a
record whose two columns are there. -/
lemma readPassword_fetched (serverData : GetCredentialServerData) {accounts : List ResultRow}
    (haccount : serverData.account ∈ accounts.map buildTradingAccountRecord)
    (hstatus : serverData.account.status.getD "" ≠ "disabled") :
    (GetCredentialHandler.readPassword serverData).Follows (record queried)
      [(accountQuery serverData.accountId, some accounts)] (Fetched serverData.accountId) := by
  refine (selectPassword_selected serverData.accountId _).bind fun result seen hselected => ?_
  by_cases hresult : result.errorCode = .kSuccess
  · rw [if_neg (not_not.mpr hresult)]
    obtain ⟨passwords, hdata, rfl⟩ := hselected hresult
    rw [hdata, Option.getD_some]
    split
    · exact fun h => by cases h
    · next row rows hrows =>
      split
      · next keyId ciphertext hkeyId hciphertext =>
        split
        · exact fun h => by cases h
        · next password hpassword =>
          intro _
          refine ⟨accounts, passwords, rfl, _, rfl, ⟨?_, ?_⟩, rfl⟩
          · exact ⟨serverData.account, haccount, rfl, rfl, hstatus⟩
          · refine ⟨row, ?_, ?_⟩
            · rw [hrows]
              exact List.mem_cons_self ..
            · rw [hciphertext, decryptCredential_eq_some hpassword]
      · exact fun h => by cases h
  · rw [if_pos hresult]
    exact fun h => absurd h hresult

/-- `GetCredential` queries the account and then the password.

**Proof sketch.** Along the program: the first query has answered with an account that is not
disabled, and the rest fetches the password. -/
lemma getCredential_fetched (serverData : GetCredentialServerData) :
    (GetCredentialHandler.executeBusiness serverData).Follows (record queried) []
      (Fetched serverData.accountId) := by
  refine ⟨trivial, fun acquired => ?_⟩
  cases acquired with
  | false => exact fun h => by cases h
  | true =>
    refine (selectAccount_selected serverData.accountId _).bind fun result seen hselected => ?_
    by_cases hresult : result.errorCode = .kSuccess
    · rw [if_neg (not_not.mpr hresult)]
      obtain ⟨accounts, hdata, rfl⟩ := hselected hresult
      rw [hdata, Option.getD_some]
      split
      · exact fun h => by cases h
      · next account rest haccounts =>
        by_cases hstatus : account.status.getD "" = "disabled"
        · rw [if_pos hstatus]
          exact fun h => by cases h
        · rw [if_neg hstatus]
          have hmem : account ∈ accounts.map buildTradingAccountRecord := by
            rw [haccounts]
            exact List.mem_cons_self ..
          exact readPassword_fetched { serverData with account } hmem hstatus
    · rw [if_pos hresult]
      exact fun h => absurd h hresult

/-- What a call of `GetCredential` has queried if it is answered with `OK`. -/
def Delivered (request : GetCredentialRequest) (answer : Status × AccountResponse)
    (seen : List (String × Option (List ResultRow))) : Prop :=
  answer.1 = .OK → request.accountId ≠ "" ∧ ∃ accounts passwords,
    seen = [(accountQuery request.accountId, some accounts),
      (credentialQuery request.accountId, some passwords)] ∧
    ∃ credential, credential.accountId = request.accountId ∧
      Composed credential accounts passwords ∧ answer.2 = .getCredential ⟨some credential⟩

/-- A call of `GetCredential` queries the account and then the password.

**Proof sketch.** An answer `OK` is what the business has fetched. -/
lemma serve_delivered (request : GetCredentialRequest) :
    (serve (.getCredential request)).Follows (record queried) [] (Delivered request) := by
  refine follows_serve trivial
    (fun _ hcode _ hOK => absurd (toGrpcStatus_eq_OK.mp hOK) hcode) fun hvalid => ?_
  refine Follows.map ((getCredential_fetched _).mono fun answer seen hfetched hOK => ?_)
  unfold respond at hOK ⊢
  by_cases hcode : answer.1.errorCode = .kSuccess
  · rw [if_neg (not_not.mpr hcode)]
    obtain ⟨accounts, passwords, hseen, credential, haccountId, hcomposed, hresponse⟩ :=
      hfetched hcode
    exact ⟨hvalid.2, accounts, passwords, hseen, credential, haccountId, hcomposed,
      congrArg AccountResponse.getCredential hresponse⟩
  · rw [if_pos hcode] at hOK
    exact absurd (toGrpcStatus_eq_OK.mp hOK) hcode

/-- A call of `GetCredential` only asks. -/
lemma serve_getCredential_only (request : GetCredentialRequest) :
    (serve (.getCredential request)).Only (Asks accountSchema) :=
  only_serve fun _ => Only.bind (getCredential_only _) fun _ => trivial

/-! ## Between the queries -/

section

variable {κ : Type} [DecidableEq κ]

/-- The query of a client. -/
def queryOf (client : κ) (event : Event Call.Answer κ (Shared accountSchema κ)) :
    Option (String × Option (List ResultRow)) :=
  if event.client = client then queried event.call event.answer else none

/-- The calls between the first two queries of a client. -/
def betweenQueries (client : κ) (events : List (Event Call.Answer κ (Shared accountSchema κ))) :
    List (Event Call.Answer κ (Shared accountSchema κ)) :=
  (events.dropWhile fun event => (queryOf client event).isNone).tail.takeWhile fun event =>
    (queryOf client event).isNone

/-- The last change of the password between the first two queries of a client leaves the account
enabled, and its login data as the first query found them. -/
def Untorn (client : κ) (accountId : String)
    (events : List (Event Call.Answer κ (Shared accountSchema κ))) : Prop :=
  ∀ first ∈ events.find? fun event => (queryOf client event).isSome,
    ∀ change ∈ lastChange (fun s => passwordsOf s.committed accountId)
        (betweenQueries client events),
      loginOf change.after.committed accountId = loginOf first.before.committed accountId ∧
      Enabled change.after.committed accountId

instance (client : κ) (accountId : String)
    (events : List (Event Call.Answer κ (Shared accountSchema κ))) :
    Decidable (Untorn client accountId events) :=
  inferInstanceAs (Decidable (∀ first ∈ events.find? _, _))

/-- The two queries of a client that has made two.

**Proof sketch.** The recorded queries split the events: nothing before the first one and between
the two is a query of the client. -/
lemma exists_queries {client : κ} {events : List (Event Call.Answer κ (Shared accountSchema κ))}
    {sql sql' : String} {results results' : Option (List ResultRow)}
    (h : events.filterMap (queryOf client) = [(sql, results), (sql', results')]) :
    ∃ before first between second after,
      events = before ++ first :: (between ++ second :: after) ∧
      queryOf client first = some (sql, results) ∧
      queryOf client second = some (sql', results') ∧
      events.find? (fun event => (queryOf client event).isSome) = some first ∧
      betweenQueries client events = between := by
  obtain ⟨before, first, rest, rfl, hbefore, hfirst, hrest⟩ := List.filterMap_eq_cons_iff.mp h
  obtain ⟨between, second, after, rfl, hbetween, hsecond, -⟩ := List.filterMap_eq_cons_iff.mp hrest
  refine ⟨before, first, between, second, after, rfl, hfirst, hsecond, ?_, ?_⟩
  · have hnone : before.find? (fun event => (queryOf client event).isSome) = none :=
      List.find?_eq_none.mpr fun event hevent => by simp [hbefore event hevent]
    rw [List.find?_append, hnone]
    simp [hfirst]
  · unfold betweenQueries
    rw [List.dropWhile_append_of_pos fun event hevent => by simp [hbefore event hevent],
      List.dropWhile_cons_of_neg (by simp [hfirst]), List.tail_cons,
      List.takeWhile_append_of_pos fun event hevent => by simp [hbetween event hevent],
      List.takeWhile_cons_of_neg (by simp [hsecond]), List.append_nil]

omit [DecidableEq κ] in
/-- The rows that an account was answered from. -/
lemma Composed.exists_account {store : Store accountSchema} {credential : CredentialMaterial}
    {accounts passwords : List ResultRow} (h : Composed credential accounts passwords)
    {accountId : String}
    (hanswers : Answers store Dao.TradingAccount.tableName (accountIs accountId) accounts) :
    ∃ row ∈ accountRows store accountId, (row "broker_id").getD "" = credential.brokerId ∧
      (row "connection_string").getD "" = credential.connectionString ∧
      row "status" ≠ some "disabled" := by
  obtain ⟨account, haccount, hbroker, hconnection, hstatus⟩ := h.account
  obtain ⟨result, hresult, rfl⟩ := List.mem_map.mp haccount
  obtain ⟨row, hrow, hshows⟩ := hanswers.exists_shows tradingAccountTable_mem hresult
  rw [buildTradingAccountRecord_of_shows hshows] at hbroker hconnection hstatus
  refine ⟨row, hrow, hbroker, hconnection, fun hdisabled => hstatus ?_⟩
  show (row "status").getD "" = "disabled"
  rw [hdisabled]
  rfl

omit [DecidableEq κ] in
/-- The password that was answered is a stored one. -/
lemma Composed.password_mem {store : Store accountSchema} {credential : CredentialMaterial}
    {accounts passwords : List ResultRow} (h : Composed credential accounts passwords)
    {accountId : String}
    (hanswers : Answers store AccountCredential.tableName (passwordOf accountId) passwords) :
    some credential.password ∈ passwordsOf store accountId := by
  obtain ⟨password, hpassword, hciphertext⟩ := h.password
  obtain ⟨result, hresult, rfl⟩ := List.mem_map.mp hpassword
  obtain ⟨row, hrow, hshows⟩ := hanswers.exists_shows accountCredentialTable_mem hresult
  rw [(buildAccountCredentialRecord_of_shows hshows).ciphertext] at hciphertext
  exact List.mem_map.mpr ⟨row, hrow, hciphertext⟩

variable {counting : Counting} {calls : κ → AccountCall} {store : Store accountSchema}
  {events : List (Event Call.Answer κ (Shared accountSchema κ))} {clients : Callers κ}
  {client : κ} {request : GetCredentialRequest}

/-- A query of a `GetCredential` is answered from what is committed at the moment.

**Proof sketch.** The client only asks, so that it has no transaction open, and the query is
answered from the committed tables. -/
lemma answers_of_split {before after : List (Event Call.Answer κ (Shared accountSchema κ))}
    {event : Event Call.Answer κ (Shared accountSchema κ)}
    (hrun : SideBySide counting calls store (before ++ event :: after) clients)
    (hcall : calls client = .getCredential request) {sql name : String}
    {conditions : List (String × String)} {results : List ResultRow}
    (hquery : queryOf client event = some (sql, some results))
    (hread : read sql = some (.select name conditions)) :
    event.after = event.before ∧ Answers event.before.committed name conditions results := by
  obtain ⟨mover, call, answer, s, s'⟩ := event
  have hclient : mover = client := by
    by_contra hne
    rw [queryOf, if_neg hne] at hquery
    cases hquery
  subst hclient
  rw [queryOf, if_pos rfl] at hquery
  cases call with
  | query sql' =>
    cases hquery
    obtain ⟨middle, rest, hbefore, rfl, -, hserves, -⟩ := hrun.split rfl
    have honly : ((callers calls store).programs mover).Only (Asks accountSchema) := by
      show (serve (calls mover)).Only _
      rw [hcall]
      exact serve_getCredential_only request
    obtain ⟨-, hjournal⟩ := journals_of_only hbefore honly rfl
    obtain ⟨hsame, rows, hview, hanswers⟩ := Shared.answers_of_serves hserves hread
    refine ⟨hsame, ?_⟩
    have hcommitted : middle.shared.view mover = some middle.shared.committed := by
      unfold Shared.view
      rw [hjournal]
      rfl
    obtain rfl := Option.some.inj (hcommitted.symm.trans hview)
    exact hanswers
  | isReady | acquire | isConnected | lastError | beginTransaction | commitTransaction
  | rollbackTransaction | execute => cases hquery

/-- A `GetCredential` beside any other calls answers with a snapshot, if the last change of the
password between its two queries leaves the account enabled and its login data as they were.

**Proof sketch.** The password is the one of the second query, which the last change before it has
left, or which was there at the first query already. In the state after that change, or at the
first query, the login data are those of the first query. -/
theorem snapshot_of_untorn (hrun : SideBySide counting calls store events clients)
    (hcall : calls client = .getCredential request) {response : AccountResponse}
    (hdone : clients.programs client = .pure (.OK, response))
    (huntorn : Untorn client request.accountId events) :
    ∃ credential, response = .getCredential ⟨some credential⟩ ∧
      credential.accountId = request.accountId ∧ Snapshot store events credential := by
  have hstart : ((callers calls store).programs client).Follows (record queried) []
      (Delivered request) := by
    show (serve (calls client)).Follows _ _ _
    rw [hcall]
    exact serve_delivered request
  have hfollows := hrun.follows hstart
  rw [hdone, after_record, List.nil_append] at hfollows
  obtain ⟨haccountId, accounts, passwords, hseen, credential, hid, hcomposed, hresponse⟩ :=
    hfollows rfl
  obtain ⟨before, first, between, second, after, rfl, hfirst, hsecond, hfind, hbetween⟩ :=
    exists_queries hseen
  refine ⟨credential, hresponse, hid, ?_⟩
  obtain ⟨hsame, hanswers⟩ := answers_of_split hrun hcall hfirst
    (read_accountQuery haccountId)
  obtain ⟨row, hrow, hbroker, hconnection, hstatus⟩ := hcomposed.exists_account hanswers
  -- what the second query sees is what the last change since the first one has left
  have hpassword : some credential.password ∈ ((lastChange
      (fun s => passwordsOf s.committed request.accountId) between).map
        fun event => passwordsOf event.after.committed request.accountId).getD
          (passwordsOf first.before.committed request.accountId) := by
    have hlast := hrun.eq_lastChange_between fun s => passwordsOf s.committed request.accountId
    have hregroup : before ++ first :: (between ++ second :: after) =
        (before ++ first :: between) ++ second :: after := by simp
    rw [hregroup] at hrun
    have hanswers' := (answers_of_split hrun hcall hsecond (read_credentialQuery haccountId)).2
    rw [← hsame, ← hlast]
    exact hcomposed.password_mem hanswers'
  cases hchange : lastChange (fun s => passwordsOf s.committed request.accountId) between with
  | none =>
    rw [hchange] at hpassword
    refine ⟨first.after.committed, List.mem_cons_of_mem _ (List.mem_map.mpr ⟨first, ?_, rfl⟩),
      ?_, ?_⟩
    · simp
    · rw [hid, hsame]
      exact ⟨row, hrow, hbroker, hconnection, hstatus⟩
    · rw [hid, hsame]
      exact hpassword
  | some change =>
    rw [hchange] at hpassword
    rw [← hbetween] at hchange
    obtain ⟨hlogin, henabled⟩ := huntorn first hfind change hchange
    have hmem : change ∈ between := by
      rw [hbetween] at hchange
      exact List.mem_reverse.mp (List.mem_of_find?_eq_some hchange)
    have hlogin' : (row "broker_id", row "connection_string") ∈
        loginOf change.after.committed request.accountId := by
      rw [hlogin]
      exact List.mem_map.mpr ⟨row, hrow, rfl⟩
    obtain ⟨row', hrow', heq⟩ := List.mem_map.mp hlogin'
    obtain ⟨hbroker', hconnection'⟩ := Prod.mk.inj heq
    refine ⟨change.after.committed, List.mem_cons_of_mem _ (List.mem_map.mpr ⟨change, ?_, rfl⟩),
      ?_, ?_⟩
    · simp [hmem]
    · rw [hid]
      refine ⟨row', hrow', ?_, ?_, henabled row' hrow'⟩
      · rw [hbroker', hbroker]
      · rw [hconnection', hconnection]
    · rw [hid]
      exact hpassword

end

namespace Sample

/-- An account with its password. -/
def accountStore : Store accountSchema :=
  (Store.empty.replay (addStatements ⟨"acc", "ctp", "p1", "tcp://a", ""⟩)).getD .empty

/-- A `GetCredential` and an `UpdateAccount` with a new password and some status. -/
def fetchAndUpdate (status : String) : Bool → AccountCall
  | true => .getCredential ⟨"acc", "engine"⟩
  | false => .updateAccount ⟨some ⟨"acc", "ctp", "p2", "tcp://a", status⟩⟩

/-- The update is published between the two queries. -/
def torn (status : String) :
    List (Event Call.Answer Bool (Shared accountSchema Bool)) × Callers Bool :=
  schedule Shared.serve (List.replicate 4 true ++ List.replicate 10 false ++ List.replicate 2 true)
    (callers (fetchAndUpdate status) accountStore)

end Sample

/-- A change of the password that leaves the rest alone. -/
theorem snapshot_of_untorn_sample :
    ∃ credential,
      AccountResponse.getCredential ⟨some ⟨"acc", "ctp", "tcp://a", "p2"⟩⟩ =
        .getCredential ⟨some credential⟩ ∧
      credential.accountId = "acc" ∧
      Snapshot Sample.accountStore (Sample.torn "").1 credential := by
  have hrun : SideBySide countFound (Sample.fetchAndUpdate "") Sample.accountStore
      (Sample.torn "").1 (Sample.torn "").2 :=
    interleaving_schedule Shared.serves_serve _ _
  have hcall : Sample.fetchAndUpdate "" true = .getCredential ⟨"acc", "engine"⟩ := rfl
  have ⟨hdone, huntorn⟩ : (Sample.torn "").2.result true =
        some (.OK, .getCredential ⟨some ⟨"acc", "ctp", "tcp://a", "p2"⟩⟩) ∧
      Untorn true "acc" (Sample.torn "").1 := by
    decide +kernel
  exact snapshot_of_untorn hrun hcall (Clients.result_eq_some.mp hdone) huntorn

/-- An account gets a new password and is disabled in one transaction. A `GetCredential` beside it
is given the new password: no committed state gives that answer.

**Proof sketch.** The schedule is run, which gives the answer; that no committed state holds this
credential is checked over the states of the run. -/
theorem credential_torn :
    ¬∀ (counting : Counting) (calls : Bool → AccountCall) (store : Store accountSchema)
      (events : List (Event Call.Answer Bool (Shared accountSchema Bool)))
      (clients : Callers Bool) (request : GetCredentialRequest) (credential : CredentialMaterial),
      SideBySide counting calls store events clients → calls true = .getCredential request →
      (∃ request', calls false = .updateAccount request') →
      clients.result true = some (.OK, .getCredential ⟨some credential⟩) →
        Snapshot store events credential := by
  intro h
  have hrun : SideBySide countFound (Sample.fetchAndUpdate "disabled") Sample.accountStore
      (Sample.torn "disabled").1 (Sample.torn "disabled").2 :=
    interleaving_schedule Shared.serves_serve _ _
  have hcall : Sample.fetchAndUpdate "disabled" true = .getCredential ⟨"acc", "engine"⟩ := rfl
  have hupdate : ∃ request', Sample.fetchAndUpdate "disabled" false = .updateAccount request' :=
    ⟨_, rfl⟩
  have ⟨hdone, htorn⟩ : (Sample.torn "disabled").2.result true =
        some (.OK, .getCredential ⟨some ⟨"acc", "ctp", "tcp://a", "p2"⟩⟩) ∧
      ¬Snapshot Sample.accountStore (Sample.torn "disabled").1
        ⟨"acc", "ctp", "tcp://a", "p2"⟩ := by
    decide +kernel
  exact htorn (h countFound _ _ _ _ _ _ hrun hcall hupdate hdone)

end AccountService
