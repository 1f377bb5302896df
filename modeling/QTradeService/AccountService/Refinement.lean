import QTradeService.AccountService.Directory
import QTradeService.AccountService.Programs

set_option relaxedAutoImplicit false
set_option autoImplicit false

/-!
# The account service refines the map

Without failures of the database, the service on empty tables answers every sequence of calls as
the empty directory does, whatever strings the requests carry.

## Main definitions

* `AccountService.refinement` — the simulation of the service by the directory.

## Main results

* `AccountService.directory_serve` — one call.
* `AccountService.service_refines_directory` — every run.
-/

namespace AccountService

open Sql Dao Database Grpc

/-! ## Statements that are accepted -/

section

variable {store : Store accountSchema} {account : TradingAccount}

/-- The schema of `trading_account`. -/
lemma eq_tradingAccountTable {table : TableSchema}
    (h : table ∈ accountSchema Dao.TradingAccount.tableName) : table = tradingAccountTable :=
  Option.some.inj (h.symm.trans tradingAccountTable_mem)

/-- The schema of `account_credential`. -/
lemma eq_accountCredentialTable {table : TableSchema}
    (h : table ∈ accountSchema AccountCredential.tableName) : table = accountCredentialTable :=
  Option.some.inj (h.symm.trans accountCredentialTable_mem)

/-- A new account is accepted. -/
lemma insertAccount_ne_none (h : accountRows store account.accountId = []) :
    store.exec (insertAccount account) ≠ none := by
  refine Store.insert_ne_none fun table htable row hrow hkey => ?_
  rw [eq_tradingAccountTable htable] at hkey
  have haccountId : row "account_id" = some account.accountId := List.head_eq_of_cons_eq hkey
  have hmem : row ∈ accountRows store account.accountId :=
    List.mem_filter.mpr ⟨hrow, satisfies_accountIs.mpr haccountId⟩
  rw [h] at hmem
  exact List.not_mem_nil hmem

/-- The password of an account without a password is accepted. -/
lemma insertCredential_ne_none (h : credentialRows store account.accountId = []) :
    store.exec (insertCredential account) ≠ none := by
  refine Store.insert_ne_none fun table htable row hrow hkey => ?_
  rw [eq_accountCredentialTable htable] at hkey
  have haccountId : row "account_id" = some account.accountId := List.head_eq_of_cons_eq hkey
  have hmem : row ∈ credentialRows store account.accountId :=
    List.mem_filter.mpr ⟨hrow, satisfies_accountIs.mpr haccountId⟩
  rw [h] at hmem
  exact List.not_mem_nil hmem

/-- Overwriting an account is accepted. -/
lemma updateAccountRow_ne_none : store.exec (updateAccountRow account) ≠ none := by
  refine Store.update_ne_none fun table htable row hrow => ?_
  rw [eq_tradingAccountTable htable]
  show [some account.accountId] = [row "account_id"]
  rw [satisfies_accountIs.mp hrow]

/-- Overwriting a password is accepted. -/
lemma updateCredential_ne_none : store.exec (updateCredential account) ≠ none := by
  refine Store.update_ne_none fun table htable row hrow => ?_
  rw [eq_accountCredentialTable htable]
  obtain ⟨haccountId, htype⟩ := satisfies_passwordOf.mp hrow
  show [some account.accountId, some "1"] = [row "account_id", row "credential_type"]
  rw [haccountId, htype]

end

/-! ## Refused calls -/

section

variable {store : Store accountSchema} {directory : Directory} {counting : Counting}

/-- A call whose request is invalid changes nothing.

**Proof sketch.** By cases on the call: the directory checks the same fields. -/
lemma Directory.step_of_invalid {call : AccountCall} (h : ¬call.Valid) :
    directory.step call = (.error .kInternalError, directory) := by
  cases call with
  | addAccount request =>
    obtain ⟨account⟩ := request
    cases account with
    | none => rfl
    | some account => exact if_pos (or_iff_not_and_not.mpr h)
  | getAccount request =>
    exact congrArg (fun answer => (answer, directory)) (if_pos (not_not.mp h))
  | listAccounts request => exact absurd trivial h
  | updateAccount request =>
    obtain ⟨account⟩ := request
    cases account with
    | none => rfl
    | some account => exact if_pos (not_not.mp h)
  | getCredential request =>
    exact congrArg (fun answer => (answer, directory)) (if_pos (or_iff_not_and_not.mpr h))

/-- An account that is there already is refused. -/
lemma Directory.addAccount_of_some {account : TradingAccount} {entry : Entry}
    (hvalid : (AccountCall.addAccount ⟨some account⟩).Valid)
    (hentry : directory account.accountId = some entry) :
    directory.step (.addAccount ⟨some account⟩) = (.error .kSystemError, directory) := by
  have hvalid' : ¬(account.accountId = "" ∨ account.password = "") := not_or.mpr hvalid
  simp only [Directory.step, Directory.addAccount, if_neg hvalid', hentry]

/-- An account that is not there is not updated. -/
lemma Directory.updateAccount_of_none {account : TradingAccount}
    (hvalid : (AccountCall.updateAccount ⟨some account⟩).Valid)
    (hnone : directory account.accountId = none) :
    directory.step (.updateAccount ⟨some account⟩) = (.error .kNotFound, directory) := by
  have hvalid' : account.accountId ≠ "" := hvalid
  simp only [Directory.step, Directory.updateAccount, if_neg hvalid', hnone]

/-- A statement that is reported to affect no row finds none. -/
lemma select_eq_nil_of_reports {name : String} {assignments conditions : KeyValues}
    (hfound : ReportsFound counting)
    (h : counting.Reports (.update name assignments conditions) (store.rows name) 0) :
    store.select name conditions = [] := by
  by_contra hsome
  refine hfound _ _ _ h ?_ rfl
  show (store.rows name).countP _ ≠ 0
  rw [List.countP_eq_length_filter]
  exact fun hlength => hsome (List.length_eq_zero_iff.mp hlength)

/-- Without failures, the service refuses a valid call as the directory refuses it.

**Proof sketch.** By cases on the reason. An insert fails only if the account is there; an update
is always accepted and affects the rows of the account, if there are any; and a password row of
the directory can be used. -/
lemma Represents.refused {call : AccountCall} {code : ErrorCode} (h : Represents store directory)
    (hfound : ReportsFound counting) (hvalid : call.Valid)
    (hrefused : Refused False counting store call code) :
    directory.step call = (.error code, directory) := by
  cases hrefused with
  | faulty hfaults => exact hfaults.elim
  | invalid hinvalid => exact absurd hvalid hinvalid
  | @accountExists account hexists =>
    obtain ⟨row, hrow⟩ := List.exists_mem_of_ne_nil _ hexists
    obtain ⟨entry, hentry, -⟩ := h.entry_of_mem hrow
    exact Directory.addAccount_of_some hvalid hentry
  | @accountNotInserted account hexec =>
    cases hentry : directory account.accountId with
    | none => exact absurd hexec (insertAccount_ne_none (h.accountRows_eq_nil.mpr hentry))
    | some entry => exact Directory.addAccount_of_some hvalid hentry
  | @credentialNotInserted account store₁ hinsert hexec =>
    cases hentry : directory account.accountId with
    | none =>
      refine absurd hexec (insertCredential_ne_none ?_)
      rw [credentialRows_of_account hinsert rfl, h.credentials, hentry]
      rfl
    | some entry => exact Directory.addAccount_of_some hvalid hentry
  | accountNotUpdated hexec => exact absurd hexec updateAccountRow_ne_none
  | accountNotAffected hreports =>
    have hnone := select_eq_nil_of_reports hfound hreports
    exact Directory.updateAccount_of_none hvalid (h.accountRows_eq_nil.mp hnone)
  | credentialMissing hupdate hmissing =>
    rw [Store.select_exec_of_ne hupdate credentialTable_ne] at hmissing
    exact Directory.updateAccount_of_none hvalid (h.passwordRows_eq_nil.mp hmissing)
  | credentialNotUpdated hupdate hexec => exact absurd hexec updateCredential_ne_none
  | credentialNotAffected hupdate hreports =>
    have hmissing := select_eq_nil_of_reports hfound hreports
    rw [Store.select_exec_of_ne hupdate credentialTable_ne] at hmissing
    exact Directory.updateAccount_of_none hvalid (h.passwordRows_eq_nil.mp hmissing)
  | @accountNotFound accountId _ hcall hmissing =>
    have hnone : directory accountId = none := h.accountRows_eq_nil.mp hmissing
    rcases hcall with rfl | ⟨engineId, rfl⟩
    · have hvalid' : accountId ≠ "" := hvalid
      simp only [Directory.step, Directory.getAccount, if_neg hvalid', hnone]
    · have hvalid' : ¬(engineId = "" ∨ accountId = "") := not_or.mpr hvalid
      simp only [Directory.step, Directory.getCredential, if_neg hvalid', hnone]
  | @disabled accountId engineId row hrow hstatus =>
    obtain ⟨entry, hentry, rfl⟩ := h.entry_of_mem hrow
    have hvalid' : ¬(engineId = "" ∨ accountId = "") := not_or.mpr hvalid
    have hdisabled : entry.status = "disabled" := Option.some.inj hstatus
    simp only [Directory.step, Directory.getCredential, if_neg hvalid', hentry, if_pos hdisabled]
  | @credentialNotFound accountId engineId hmissing =>
    have hnone : directory accountId = none := h.passwordRows_eq_nil.mp hmissing
    have hvalid' : ¬(engineId = "" ∨ accountId = "") := not_or.mpr hvalid
    simp only [Directory.step, Directory.getCredential, if_neg hvalid', hnone]
  | @credentialUnusable accountId engineId row hrow hunusable =>
    obtain ⟨entry, hentry, rfl⟩ := h.entry_of_mem_credentials hrow
    rcases hunusable with hkeyId | hpassword
    · exact absurd (show "stub-v1" = "" from hkeyId) (by decide)
    · exact absurd hpassword (h.passwords accountId entry hentry)

end

/-! ## Runs -/

section

variable {σ : Type} {db : Program.Handler Call.Answer σ} {content : σ → Session accountSchema}
  {counting : Counting} (hdb : Conforms False counting db content)

include hdb

/-- A call whose request is invalid is refused and changes nothing. -/
lemma serve_of_invalid_ensures {call : AccountCall} (h : ¬call.Valid) (s : σ) :
    (serve call).Ensures db s fun answer s' =>
      answer.1 = toGrpcStatus .kInternalError ∧ content s' = content s := by
  rw [serve_of_invalid h]
  refine checked_ensures (fun (answer : Status × AccountResponse) session =>
    answer.1 = toGrpcStatus .kInternalError ∧ session = content s) (hdb.isReady s) rfl
    False.elim fun s' hs' => ?_
  exact .pure ⟨rfl, hs'⟩

/-- One call is answered as the directory answers it.

**Proof sketch.** A valid call is a step on the tables, which the directory follows, or is refused
for the reason the directory has. An invalid one is refused by both. -/
theorem directory_serve (hfound : ReportsFound counting) {store : Store accountSchema}
    {directory : Directory} (h : Represents store directory) (call : AccountCall) {s : σ}
    (hs : content s = ⟨store, none⟩) :
    Agrees ((service db).step call s).1 (directory.step call).1 ∧
    ∃ store', content ((service db).step call s).2 = ⟨store', none⟩ ∧
      Represents store' (directory.step call).2 := by
  by_cases hvalid : call.Valid
  · obtain ⟨store', hstore', hstep⟩ := accountStep_serve hdb call hs
    cases represents_step h hstep with
    | answered hstatus hagrees hrepresents => exact ⟨hagrees, store', hstore', hrepresents⟩
    | refused hstatus hstore =>
      subst hstore
      generalize ((service db).step call s).1 = answer at hstep hstatus ⊢
      cases hstep with
      | refused response hcode hrefused =>
        rw [h.refused hfound hvalid hrefused]
        exact ⟨.refused response hcode, _, hstore', h⟩
      | added | got | listed | updated | gave => exact absurd rfl hstatus
  · obtain ⟨hstatus, hcontent⟩ := serve_of_invalid_ensures hdb hvalid s
    rw [Directory.step_of_invalid hvalid]
    refine ⟨?_, store, hcontent.trans hs, h⟩
    have hanswer : ((service db).step call s).1 =
        (toGrpcStatus .kInternalError, ((service db).step call s).1.2) :=
      Prod.ext hstatus rfl
    rw [hanswer]
    exact .refused _ (by decide)

/-- The directory simulates the service. -/
def refinement (hfound : ReportsFound counting) :
    Machine.Simulation (ι := Unit) (service db) Directory.machine where
  guard _ _ _ := True
  next _ _ := ()
  rel _ s directory := ∃ store, content s = ⟨store, none⟩ ∧ Represents store directory
  answers _ answer reply := Agrees answer reply
  step _ call s directory _ hrel := by
    obtain ⟨store, hstore, hrepresents⟩ := hrel
    exact directory_serve hdb hfound hrepresents call hstore

/-- On empty tables, the service answers every sequence of calls as the empty directory does.

**Proof sketch.** The tables represent a directory throughout. A call that is not refused is
answered as the directory answers it, and without failures a call is refused only if the directory
refuses it. -/
theorem service_refines_directory (hfound : ReportsFound counting) {s : σ}
    (hs : content s = ⟨.empty, none⟩) (calls : List AccountCall) :
    List.Forall₂ (fun answered replied => answered.1 = replied.1 ∧ Agrees answered.2 replied.2)
      ((service db).trace calls s) (Directory.machine.trace calls Directory.empty) :=
  (refinement hdb hfound).run () calls (.of_forall (fun _ _ _ => trivial) () calls s)
    ⟨.empty, hs, represents_empty⟩

end

/-- An account with a quote in its password is added, and its credential read. -/
theorem service_refines_directory_sample :
    List.Forall₂ (fun answered replied => answered.1 = replied.1 ∧ Agrees answered.2 replied.2)
      ((service (reference accountSchema)).trace
        [.addAccount ⟨some ⟨"acc", "ctp", "p', 'x", "tcp://a", ""⟩⟩,
          .getCredential ⟨"acc", "engine"⟩] Sample.empty)
      (Directory.machine.trace
        [.addAccount ⟨some ⟨"acc", "ctp", "p', 'x", "tcp://a", ""⟩⟩,
          .getCredential ⟨"acc", "engine"⟩] Directory.empty) :=
  service_refines_directory (reference_conforms accountSchema) reportsFound_countFound rfl _

end AccountService
