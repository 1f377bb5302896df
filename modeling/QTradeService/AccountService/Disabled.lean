import QTradeService.AccountService.Calls

set_option relaxedAutoImplicit false
set_option autoImplicit false

/-!
# Disabled accounts

`GetCredential` refuses a disabled account. The status of an account is written by `AddAccount`
and `UpdateAccount` through one conversion, which turns an empty status into `active`: an
`UpdateAccount` that leaves the status empty enables a disabled account.

## Main definitions

* `AccountService.Disabled` — the tables hold the account, and hold it as disabled.
* `AccountService.RefusedWhileDisabled` — once an account was disabled in a run, its credential is
  refused until it is enabled.

## Main results

* `AccountService.disabled_step` — what keeps an account disabled over a call.
* `AccountService.refused_while_disabled` — the runs in which no `UpdateAccount` for a disabled
  account leaves the status empty.
* `AccountService.empty_status_enables`, `AccountService.given_while_disabled` — the other runs.
-/

namespace AccountService

open Sql Dao Database Grpc

/-! ## Calls about an account -/

/-- The call sets the status of the account to `disabled`. -/
def Disables (accountId : String) (call : AccountCall) : Prop :=
  ∃ account ∈ call.written, account.accountId = accountId ∧ account.status = "disabled"

/-- The call updates the account and carries a status other than `disabled`. -/
def Enables (accountId : String) (call : AccountCall) : Prop :=
  ∃ account ∈ call.updated, account.accountId = accountId ∧ account.status ≠ "" ∧
    account.status ≠ "disabled"

/-- The call updates the account and leaves the status empty. -/
def LeavesStatusEmpty (accountId : String) (call : AccountCall) : Prop :=
  ∃ account ∈ call.updated, account.accountId = accountId ∧ account.status = ""

instance (accountId : String) (call : AccountCall) : Decidable (Disables accountId call) :=
  inferInstanceAs (Decidable (∃ account ∈ call.written, _))

instance (accountId : String) (call : AccountCall) : Decidable (Enables accountId call) :=
  inferInstanceAs (Decidable (∃ account ∈ call.updated, _))

instance (accountId : String) (call : AccountCall) :
    Decidable (LeavesStatusEmpty accountId call) :=
  inferInstanceAs (Decidable (∃ account ∈ call.updated, _))

/-! ## Tables -/

/-- The rows of an account. -/
def accountRows (store : Store accountSchema) (accountId : String) : List Row :=
  store.select Dao.TradingAccount.tableName (accountIs accountId)

/-- The account is in the tables, and disabled. -/
structure Disabled (store : Store accountSchema) (accountId : String) : Prop where
  exists_row : accountRows store accountId ≠ []
  status : ∀ row ∈ accountRows store accountId, row "status" = some "disabled"

/-- The condition for the row of an account. -/
lemma satisfies_accountIs {row : Row} {accountId : String} :
    row.satisfies (accountIs accountId) = true ↔ row "account_id" = some accountId := by
  simp [Row.satisfies, accountIs]

/-- The account of a row of the account. -/
lemma accountId_of_mem {store : Store accountSchema} {accountId : String} {row : Row}
    (h : row ∈ accountRows store accountId) : row "account_id" = some accountId :=
  satisfies_accountIs.mp (List.mem_filter.mp h).2

/-- The account of an inserted row. -/
lemma ofValues_accountId (account : TradingAccount) :
    Row.ofValues (accountValues account) "account_id" = some account.accountId := rfl

/-- The status of an inserted row. -/
lemma ofValues_status (account : TradingAccount) :
    Row.ofValues (accountValues account) "status" =
      some (if account.status = "" then "active" else account.status) := rfl

/-- The account of an updated row. -/
lemma assign_accountId (row : Row) (account : TradingAccount) :
    row.assign (accountValues account) "account_id" = some account.accountId := rfl

/-- The status of an updated row. -/
lemma assign_status (row : Row) (account : TradingAccount) :
    row.assign (accountValues account) "status" =
      some (if account.status = "" then "active" else account.status) := rfl

/-- A row of an account satisfies the condition for that account only. -/
lemma satisfies_accountIs_iff {row : Row} {accountId accountId' : String}
    (h : row "account_id" = some accountId') :
    row.satisfies (accountIs accountId) = true ↔ accountId' = accountId := by
  rw [satisfies_accountIs, h]
  exact Option.some_inj

/-- Statements on the credentials leave the rows of the accounts alone. -/
lemma accountRows_of_credential {store store' : Store accountSchema} {statement : Statement}
    (h : store.exec statement = some store')
    (htable : statement.table = AccountCredential.tableName) (accountId : String) :
    accountRows store' accountId = accountRows store accountId := by
  refine Store.select_exec_of_ne h ?_ _
  rw [htable]
  decide

/-- The rows of the accounts after an insert. -/
lemma accountRows_insertAccount {store store' : Store accountSchema} {account : TradingAccount}
    (h : store.exec (insertAccount account) = some store') (accountId : String) :
    accountRows store' accountId = accountRows store accountId ++
      if account.accountId = accountId then [Row.ofValues (accountValues account)] else [] := by
  unfold accountRows
  rw [Store.select_insert h]
  exact congrArg _ (if_congr (satisfies_accountIs_iff (ofValues_accountId account)) rfl rfl)

/-- The row after an update of the account. -/
def updatedRow (account : TradingAccount) (row : Row) : Row :=
  if row.satisfies (accountIs account.accountId) then row.assign (accountValues account) else row

/-- The rows of the accounts after an update: those of the account are overwritten.

**Proof sketch.** The update does not change the id, so that the same rows match afterwards. Among
them it overwrites those of its own account. -/
lemma accountRows_updateAccountRow {store store' : Store accountSchema} {account : TradingAccount}
    (h : store.exec (updateAccountRow account) = some store') (accountId : String) :
    accountRows store' accountId =
      if account.accountId = accountId then
        (accountRows store accountId).map fun row => row.assign (accountValues account)
      else accountRows store accountId := by
  have hselect : accountRows store' accountId =
      (accountRows store accountId).map (updatedRow account) := by
    refine Store.select_update h fun row hrow => ?_
    rw [Bool.eq_iff_iff, satisfies_accountIs, satisfies_accountIs, assign_accountId,
      satisfies_accountIs.mp hrow]
  rw [hselect]
  split
  · next hid =>
    refine List.map_congr_left fun row hrow => if_pos ?_
    exact (satisfies_accountIs_iff (accountId_of_mem hrow)).mpr hid.symm
  · next hid =>
    refine (List.map_congr_left fun row hrow => if_neg fun hsat => hid ?_).trans (List.map_id _)
    exact ((satisfies_accountIs_iff (accountId_of_mem hrow)).mp hsat).symm

/-! ## Steps -/

variable {faults : Prop} {counting : Counting} {store store' : Store accountSchema}
  {accountId : String}

/-- The rows of the accounts after `AddAccount`. -/
lemma accountRows_added {account : TradingAccount} {store₁ store₂ : Store accountSchema}
    (haccount : store.exec (insertAccount account) = some store₁)
    (hcredential : store₁.exec (insertCredential account) = some store₂) (accountId : String) :
    accountRows store₂ accountId = accountRows store accountId ++
      if account.accountId = accountId then [Row.ofValues (accountValues account)] else [] := by
  rw [accountRows_of_credential hcredential rfl, accountRows_insertAccount haccount]

/-- The rows of the accounts after `UpdateAccount`. -/
lemma accountRows_updated {account : TradingAccount} {store₁ store₂ : Store accountSchema}
    (haccount : store.exec (updateAccountRow account) = some store₁)
    (hcredential : if account.password = "" then store₂ = store₁
      else store₁.exec (updateCredential account) = some store₂ ∧
        Affects counting (updateCredential account) store₁) (accountId : String) :
    accountRows store₂ accountId =
      if account.accountId = accountId then
        (accountRows store accountId).map fun row => row.assign (accountValues account)
      else accountRows store accountId := by
  rw [← accountRows_updateAccountRow haccount]
  split at hcredential
  · rw [hcredential]
  · exact accountRows_of_credential hcredential.1 rfl accountId

/-- A statement that affects the row of an account finds one. -/
lemma accountRows_ne_nil_of_affects {account : TradingAccount}
    (h : Affects counting (updateAccountRow account) store) :
    accountRows store account.accountId ≠ [] := by
  intro hnone
  obtain ⟨affected, hreports, haffected⟩ := h
  refine haffected (counting.eq_zero hreports ?_)
  show (store.rows Dao.TradingAccount.tableName).countP _ = 0
  rw [List.countP_eq_length_filter]
  exact congrArg List.length hnone

/-- What keeps an account disabled over a call.

**Proof sketch.** By cases on the step. An added account had no rows. An update of another account
leaves the rows alone, and one of this account writes `disabled` again. -/
lemma disabled_step {call : AccountCall} {answer : Status × AccountResponse}
    (hstep : AccountStep faults counting store call answer store')
    (hdisabled : Disabled store accountId) (henables : Enables accountId call → answer.1 ≠ .OK)
    (hempty : ¬LeavesStatusEmpty accountId call) : Disabled store' accountId := by
  cases hstep with
  | refused | got | listed | gave => exact hdisabled
  | @added account store₁ store₂ _ hfresh haccount hcredential =>
    have hne : account.accountId ≠ accountId := by
      rintro rfl
      exact hdisabled.exists_row hfresh
    have hrows := accountRows_added haccount hcredential accountId
    rw [if_neg hne, List.append_nil] at hrows
    exact ⟨hrows ▸ hdisabled.exists_row, hrows ▸ hdisabled.status⟩
  | @updated account store₁ store₂ _ haccount _ hcredential =>
    have hrows := accountRows_updated haccount hcredential accountId
    by_cases hid : account.accountId = accountId
    · -- the request carries `disabled`: it enables nothing, and its status is not empty
      have hstatus : account.status = "disabled" := by
        by_contra hstatus
        by_cases hunset : account.status = ""
        · exact hempty ⟨account, rfl, hid, hunset⟩
        · exact henables ⟨account, rfl, hid, hunset, hstatus⟩ rfl
      rw [if_pos hid] at hrows
      refine ⟨?_, fun row hrow => ?_⟩
      · rw [hrows]
        exact fun hnil => hdisabled.exists_row (List.map_eq_nil_iff.mp hnil)
      · rw [hrows] at hrow
        obtain ⟨row, -, rfl⟩ := List.mem_map.mp hrow
        rw [assign_status, hstatus]
        rfl
    · rw [if_neg hid] at hrows
      exact ⟨hrows ▸ hdisabled.exists_row, hrows ▸ hdisabled.status⟩

/-- A call that sets the status to `disabled` disables the account.

**Proof sketch.** By cases on the step. The rows of the account are the one that is inserted, or
those that are overwritten, of which there is one since the update affects some. -/
lemma disabled_of_disables {call : AccountCall} {answer : Status × AccountResponse}
    (hstep : AccountStep faults counting store call answer store') (hOK : answer.1 = .OK)
    (hdisables : Disables accountId call) : Disabled store' accountId := by
  obtain ⟨_, hwritten, rfl, hstatus⟩ := hdisables
  cases hstep with
  | refused _ hcode _ => exact absurd (toGrpcStatus_eq_OK.mp hOK) hcode
  | got | listed | gave => cases hwritten
  | @added account store₁ store₂ _ hfresh haccount hcredential =>
    obtain rfl := Option.some.inj hwritten
    have hrows := accountRows_added haccount hcredential account.accountId
    have hnone : accountRows store account.accountId = [] := hfresh
    rw [if_pos rfl, hnone, List.nil_append] at hrows
    refine ⟨by simp [hrows], fun row hrow => ?_⟩
    rw [hrows] at hrow
    rw [List.mem_singleton.mp hrow, ofValues_status, hstatus]
    rfl
  | @updated account store₁ store₂ _ haccount haffects hcredential =>
    obtain rfl := Option.some.inj hwritten
    have hrows := accountRows_updated haccount hcredential account.accountId
    rw [if_pos rfl] at hrows
    refine ⟨?_, fun row hrow => ?_⟩
    · rw [hrows]
      exact fun hnil => accountRows_ne_nil_of_affects haffects (List.map_eq_nil_iff.mp hnil)
    · rw [hrows] at hrow
      obtain ⟨row, -, rfl⟩ := List.mem_map.mp hrow
      rw [assign_status, hstatus]
      rfl

/-- An `UpdateAccount` that leaves the status empty and succeeds enables the account.

**Proof sketch.** The update writes `active` into every row of the account, and there is a row. -/
theorem empty_status_enables {call : AccountCall} {answer : Status × AccountResponse}
    (hstep : AccountStep faults counting store call answer store') (hOK : answer.1 = .OK)
    (hempty : LeavesStatusEmpty accountId call) : ¬Disabled store' accountId := by
  obtain ⟨_, hupdated, rfl, hstatus⟩ := hempty
  intro hdisabled
  cases hstep with
  | refused _ hcode _ => exact hcode (toGrpcStatus_eq_OK.mp hOK)
  | added | got | listed | gave => cases hupdated
  | @updated account store₁ store₂ _ haccount _ hcredential =>
    obtain rfl := Option.some.inj hupdated
    have hrows := accountRows_updated haccount hcredential account.accountId
    rw [if_pos rfl] at hrows
    obtain ⟨row, hrow⟩ := List.exists_mem_of_ne_nil _ hdisabled.exists_row
    have hdisabledRow := hdisabled.status row hrow
    rw [hrows] at hrow
    obtain ⟨row, -, rfl⟩ := List.mem_map.mp hrow
    rw [assign_status, if_pos hstatus] at hdisabledRow
    exact absurd hdisabledRow (by decide)

/-- A disabled account gives out no credential. -/
lemma refused_of_disabled {engineId : String} {answer : Status × AccountResponse}
    (hstep : AccountStep faults counting store (.getCredential ⟨accountId, engineId⟩) answer store')
    (hdisabled : Disabled store accountId) : answer.1 ≠ .OK := by
  cases hstep with
  | refused _ hcode _ => exact fun hOK => hcode (toGrpcStatus_eq_OK.mp hOK)
  | gave _ hrow hstatus _ _ => exact absurd (hdisabled.status _ hrow) hstatus

/-! ## Runs -/

section

variable {σ : Type} {db : Program.Handler Call.Answer σ} {content : σ → Session accountSchema}

/-- No transaction is open, and the account is disabled. -/
def IdleDisabled (content : σ → Session accountSchema) (accountId : String) (s : σ) : Prop :=
  ∃ store, content s = ⟨store, none⟩ ∧ Disabled store accountId

/-- In the run of `calls`, once a call that disables the account has succeeded, `GetCredential` for
the account is refused until a call that enables it succeeds. -/
def RefusedWhileDisabled (db : Program.Handler Call.Answer σ) (accountId : String)
    (calls : List AccountCall) (s : σ) : Prop :=
  ∀ before disable between engineId after,
    calls = before ++ disable :: (between ++ .getCredential ⟨accountId, engineId⟩ :: after) →
    Disables accountId disable →
    ((service db).step disable ((service db).final before s)).1.1 = .OK →
    (∀ event ∈ (service db).trace between ((service db).final (before ++ [disable]) s),
      Enables accountId event.1 → event.2.1 ≠ .OK) →
    ((service db).step (.getCredential ⟨accountId, engineId⟩)
      ((service db).final (before ++ disable :: between) s)).1.1 ≠ .OK

/-- Every `UpdateAccount` for the account that arrives while the account is disabled carries a
status. -/
def CarriesStatus (db : Program.Handler Call.Answer σ) (content : σ → Session accountSchema)
    (accountId : String) (calls : List AccountCall) (s : σ) : Prop :=
  (service db).Admissible
    (fun _ call s => LeavesStatusEmpty accountId call →
      ¬Disabled (content s).committed accountId) (fun _ _ => ()) () calls s

variable (hdb : Conforms faults counting db content)

include hdb

/-- No run leaves a transaction open. -/
lemma idle_final (calls : List AccountCall) {s : σ} (hs : (content s).working = none) :
    (content ((service db).final calls s)).working = none := by
  refine Machine.final_invariant (I := fun s => (content s).working = none)
    (fun call s hs => ?_) calls hs
  have hidle : content s = ⟨(content s).committed, none⟩ := by rw [← hs]
  obtain ⟨store', hstore', -⟩ := accountStep_serve hdb call hidle
  rw [hstore']

/-- If every `UpdateAccount` for an account that arrives while the account is disabled carries a
status, then the account gives out no credential while it is disabled.

**Proof sketch.** The call that disables the account leaves it disabled. Up to `GetCredential`
every call keeps it disabled: by induction on the calls in between. -/
theorem refused_while_disabled (accountId : String) (calls : List AccountCall) {s : σ}
    (hs : (content s).working = none) (hcalls : CarriesStatus db content accountId calls s) :
    RefusedWhileDisabled db accountId calls s := by
  rintro before disable between engineId after rfl hdisables hOK henables
  have hdisabled : IdleDisabled content accountId ((service db).final (before ++ [disable]) s) := by
    have hidle : content ((service db).final before s) =
        ⟨(content ((service db).final before s)).committed, none⟩ := by
      rw [← idle_final hdb before hs]
    obtain ⟨store, hstore, hstep⟩ := accountStep_serve hdb disable hidle
    rw [Machine.final_append]
    exact ⟨store, hstore, disabled_of_disables hstep hOK hdisables⟩
  have hbetween : IdleDisabled content accountId
      ((service db).final between ((service db).final (before ++ [disable]) s)) := by
    refine Machine.final_invariant_of_events (fun pre call post hsplit hinv => ?_) hdisabled
    obtain ⟨store, hstore, hdisabled⟩ := hinv
    obtain ⟨store', hstore', hstep⟩ := accountStep_serve hdb call hstore
    refine ⟨store', hstore', disabled_step hstep hdisabled (fun hcall => ?_) fun hempty => ?_⟩
    · exact henables _ (Machine.mem_trace_iff _ |>.mpr ⟨pre, post, hsplit, rfl⟩) hcall
    · have hcalls' : CarriesStatus db content accountId (before ++ [disable] ++ pre ++ call ::
          (post ++ .getCredential ⟨accountId, engineId⟩ :: after)) s := by
        rw [hsplit] at hcalls
        simpa using hcalls
      refine Machine.Admissible.guard_of_split hcalls' hempty ?_
      rw [Machine.final_append, hstore]
      exact hdisabled
  rw [← Machine.final_append] at hbetween
  have hsplit : before ++ disable :: between = before ++ [disable] ++ between := by simp
  rw [hsplit]
  obtain ⟨store, hstore, hdisabled⟩ := hbetween
  obtain ⟨store', -, hstep⟩ := accountStep_serve hdb (.getCredential ⟨accountId, engineId⟩) hstore
  exact refused_of_disabled hstep hdisabled

end

/-! ## Two runs -/

namespace Sample

/-- No accounts, no transaction. -/
def empty : Session accountSchema := ⟨.empty, none⟩

/-- `AddAccount` of a disabled account. -/
def addDisabled : AccountCall := .addAccount ⟨some ⟨"acc", "ctp", "p1", "tcp://a", "disabled"⟩⟩

/-- `UpdateAccount` that changes the password and leaves the status empty. -/
def rotate : AccountCall := .updateAccount ⟨some ⟨"acc", "ctp", "p2", "tcp://a", ""⟩⟩

/-- `UpdateAccount` that changes the password and keeps the account disabled. -/
def rotateDisabled : AccountCall :=
  .updateAccount ⟨some ⟨"acc", "ctp", "p2", "tcp://a", "disabled"⟩⟩

end Sample

/-- An `UpdateAccount` without a status comes too early to matter. -/
theorem refused_while_disabled_sample :
    ((service (reference accountSchema)).step (.getCredential ⟨"acc", "engine"⟩)
      ((service (reference accountSchema)).final
        ([Sample.rotate] ++ Sample.addDisabled :: [Sample.rotateDisabled]) Sample.empty)).1.1 ≠
      .OK := by
  have hcalls : CarriesStatus (reference accountSchema) id "acc"
      ([Sample.rotate] ++ Sample.addDisabled ::
        ([Sample.rotateDisabled] ++ .getCredential ⟨"acc", "engine"⟩ :: [])) Sample.empty := by
    refine ⟨fun _ h => h.exists_row rfl, fun h => absurd h (by decide),
      fun h => absurd h (by decide), fun h => absurd h (by decide), trivial⟩
  have ⟨hOK, henables⟩ : ((service (reference accountSchema)).step Sample.addDisabled
        ((service (reference accountSchema)).final [Sample.rotate] Sample.empty)).1.1 = .OK ∧
      ∀ event ∈ (service (reference accountSchema)).trace [Sample.rotateDisabled]
        ((service (reference accountSchema)).final ([Sample.rotate] ++ [Sample.addDisabled])
          Sample.empty), Enables "acc" event.1 → event.2.1 ≠ .OK := by
    decide +kernel
  exact refused_while_disabled (reference_conforms accountSchema) "acc" _ rfl hcalls
    [Sample.rotate] Sample.addDisabled [Sample.rotateDisabled] "engine" [] rfl (by decide)
    hOK henables

/-- The password of a disabled account is changed, with the status left empty: `GetCredential`
gives out the new password.

**Proof sketch.** The run is computed. Its update leaves the status empty, and so enables the
account in between. -/
theorem given_while_disabled :
    Conforms False countFound (reference accountSchema) (id : Session accountSchema → _) ∧
    ¬RefusedWhileDisabled (reference accountSchema) "acc"
      ([] ++ Sample.addDisabled :: ([Sample.rotate] ++ .getCredential ⟨"acc", "engine"⟩ :: []))
      Sample.empty ∧
    ((service (reference accountSchema)).step (.getCredential ⟨"acc", "engine"⟩)
      ((service (reference accountSchema)).final ([] ++ Sample.addDisabled :: [Sample.rotate])
        Sample.empty)).1 =
      (.OK, .getCredential ⟨some ⟨"acc", "ctp", "tcp://a", "p2"⟩⟩) := by
  have ⟨hOK, henables, hget⟩ : ((service (reference accountSchema)).step Sample.addDisabled
        ((service (reference accountSchema)).final [] Sample.empty)).1.1 = .OK ∧
      (∀ event ∈ (service (reference accountSchema)).trace [Sample.rotate]
        ((service (reference accountSchema)).final ([] ++ [Sample.addDisabled]) Sample.empty),
        Enables "acc" event.1 → event.2.1 ≠ .OK) ∧
      ((service (reference accountSchema)).step (.getCredential ⟨"acc", "engine"⟩)
        ((service (reference accountSchema)).final ([] ++ Sample.addDisabled :: [Sample.rotate])
          Sample.empty)).1 =
        (.OK, .getCredential ⟨some ⟨"acc", "ctp", "tcp://a", "p2"⟩⟩) := by
    decide +kernel
  refine ⟨reference_conforms accountSchema, fun h => ?_, hget⟩
  refine h [] Sample.addDisabled [Sample.rotate] "engine" [] rfl (by decide) hOK henables ?_
  exact congrArg Prod.fst hget

end AccountService
