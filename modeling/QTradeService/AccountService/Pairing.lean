import QTradeService.AccountService.Directory

set_option relaxedAutoImplicit false
set_option autoImplicit false

/-!
# Account rows and password rows stay paired

`AddAccount` and `UpdateAccount` write two tables and may fail after the first one was written. On
a database whose calls fail at will, the tables hold the same accounts all the same, and a call
that is answered with an error leaves no trace.

## Main definitions

* `AccountService.Paired` — every account has one row in each table.
* `AccountService.Atomic` — what a call may change, by its status.

## Main results

* `AccountService.represents_final` — after every run the tables represent a directory.
* `AccountService.paired_and_atomic` — every run from empty tables.
-/

namespace AccountService

open Sql Dao Database Grpc

/-! ## Paired tables -/

/-- The ids of the accounts in `trading_account`. -/
def accountIds (store : Store accountSchema) : List (Option String) :=
  (store.rows Dao.TradingAccount.tableName).map fun row => row "account_id"

/-- The ids of the accounts that have a password in `account_credential`. -/
def passwordIds (store : Store accountSchema) : List (Option String) :=
  ((store.rows AccountCredential.tableName).filter fun row =>
    row "credential_type" == some "1").map fun row => row "account_id"

/-- Both tables hold the same accounts, each of them once. -/
structure Paired (store : Store accountSchema) : Prop where
  accounts : (accountIds store).Nodup
  passwords : (passwordIds store).Nodup
  same : ∀ accountId, accountId ∈ accountIds store ↔ accountId ∈ passwordIds store

/-- What a call may change. -/
structure Atomic (before : Store accountSchema) (call : AccountCall) (status : Status)
    (after : Store accountSchema) : Prop where
  /-- An error leaves the tables alone. -/
  refused : status ≠ .OK → after = before
  /-- A call that carries no account leaves the tables alone. -/
  read : call.written = none → after = before
  /-- The rows of all other accounts stay. -/
  others : ∀ account ∈ call.written, ∀ accountId, accountId ≠ account.accountId → ∀ name,
    after.select name (accountIs accountId) = before.select name (accountIs accountId)
  /-- An empty password leaves the credentials alone. -/
  credentials : ∀ account ∈ call.written, account.password = "" →
    after.rows AccountCredential.tableName = before.rows AccountCredential.tableName

/-- The primary key keeps the accounts of `trading_account` apart. -/
lemma nodup_accountIds (store : Store accountSchema) : (accountIds store).Nodup := by
  have hkeyed := store.keyed _ tradingAccountTable tradingAccountTable_mem
  unfold accountIds
  rw [List.Nodup, List.pairwise_map] at hkeyed ⊢
  refine hkeyed.imp fun {row row'} hne heq => hne ?_
  exact congrArg (fun accountId => [accountId]) heq

/-- The primary key keeps the passwords of `account_credential` apart. -/
lemma nodup_passwordIds (store : Store accountSchema) : (passwordIds store).Nodup := by
  have hkeyed := store.keyed _ accountCredentialTable accountCredentialTable_mem
  unfold passwordIds
  rw [List.Nodup, List.pairwise_map] at hkeyed ⊢
  refine (hkeyed.filter _).imp_of_mem fun {row other} hrow hother hne heq => hne ?_
  have htype := beq_iff_eq.mp (List.mem_filter.mp hrow).2
  have hotherType := beq_iff_eq.mp (List.mem_filter.mp hother).2
  show [row "account_id", row "credential_type"] = [other "account_id", other "credential_type"]
  rw [heq, htype, hotherType]

/-- Tables that represent a directory hold the same accounts.

**Proof sketch.** Every row of either table is the row of an entry of the directory, and this entry
has a row in the other table. -/
lemma Represents.paired {store : Store accountSchema} {directory : Directory}
    (h : Represents store directory) : Paired store where
  accounts := nodup_accountIds store
  passwords := nodup_passwordIds store
  same accountId := by
    unfold accountIds passwordIds
    simp only [List.mem_map, List.mem_filter, beq_iff_eq]
    constructor
    · rintro ⟨row, hrow, rfl⟩
      obtain ⟨accountId, entry, hentry, rfl⟩ := h.entry_of_row hrow
      have hmem : entry.credentialRow accountId ∈ credentialRows store accountId := by
        rw [h.credentials, hentry]
        exact List.mem_singleton_self _
      exact ⟨_, ⟨(List.mem_filter.mp hmem).1, rfl⟩, rfl⟩
    · rintro ⟨row, ⟨hrow, htype⟩, rfl⟩
      obtain ⟨accountId, haccountId⟩ := Option.ne_none_iff_exists'.mp (h.owned _ row hrow)
      have hmem : row ∈ store.select AccountCredential.tableName (passwordOf accountId) :=
        List.mem_filter.mpr ⟨hrow, satisfies_passwordOf.mpr ⟨haccountId, htype⟩⟩
      obtain ⟨entry, hentry, rfl⟩ := h.entry_of_mem_credentials hmem
      have hmem : entry.accountRow accountId ∈ accountRows store accountId := by
        rw [h.accounts, hentry]
        exact List.mem_singleton_self _
      exact ⟨_, (List.mem_filter.mp hmem).1, rfl⟩

/-! ## Atomic calls -/

section

variable {faults : Prop} {counting : Counting} {store store' : Store accountSchema}

/-- An insert of a row of one account leaves the rows of the others. -/
lemma select_insert_of_ne {name : String} {values : KeyValues} {accountId accountId' : String}
    (h : store.exec (.insert name values) = some store')
    (hvalues : Row.ofValues values "account_id" = some accountId) (hne : accountId' ≠ accountId)
    (name' : String) :
    store'.select name' (accountIs accountId') = store.select name' (accountIs accountId') := by
  by_cases hname : name' = name
  · subst hname
    have hother : ¬(Row.ofValues values).satisfies (accountIs accountId') = true := by
      rw [satisfies_accountIs_iff hvalues]
      exact hne.symm
    rw [Store.select_insert h, if_neg hother, List.append_nil]
  · exact Store.select_exec_of_ne h hname _

/-- An update of the rows of one account leaves the rows of the others.

**Proof sketch.** The rows of the other account keep their id, so that the same rows match, and none
of them meets the condition of the update. -/
lemma select_update_of_ne {name : String} {assignments conditions : KeyValues}
    {accountId accountId' : String}
    (h : store.exec (.update name assignments conditions) = some store')
    (hassignments : assignments.lookup "account_id" = some accountId)
    (hconditions : ∀ row : Row, row.satisfies conditions = true → row "account_id" = some accountId)
    (hne : accountId' ≠ accountId) (name' : String) :
    store'.select name' (accountIs accountId') = store.select name' (accountIs accountId') := by
  by_cases hname : name' = name
  · subst hname
    have hkey (row : Row) (hrow : row.satisfies conditions = true) :
        (row.assign assignments).satisfies (accountIs accountId') =
          row.satisfies (accountIs accountId') := by
      have hassigned : row.assign assignments "account_id" = row "account_id" := by
        unfold Row.assign
        rw [hassignments, hconditions row hrow]
        rfl
      rw [Bool.eq_iff_iff, satisfies_accountIs, satisfies_accountIs, hassigned]
    rw [Store.select_update h hkey]
    refine (List.map_congr_left fun row hrow => if_neg fun hsat => hne ?_).trans (List.map_id _)
    have hother := satisfies_accountIs.mp (List.mem_filter.mp hrow).2
    exact Option.some.inj (hother.symm.trans (hconditions row hsat))
  · exact Store.select_exec_of_ne h hname _

/-- Every call is atomic.

**Proof sketch.** By cases on the step. Both inserts write under the id of the account and both
updates select by it, which leaves the other accounts alone; without a password there is no second
update. -/
theorem AccountStep.atomic {call : AccountCall} {answer : Status × AccountResponse}
    (hstep : AccountStep faults counting store call answer store') :
    Atomic store call answer.1 store' := by
  cases hstep with
  | refused | got | listed | gave =>
    exact ⟨fun _ => rfl, fun _ => rfl, fun _ _ _ _ _ => rfl, fun _ _ _ => rfl⟩
  | @added account store₁ _ hvalid hfresh haccount hcredential =>
    refine ⟨fun h => absurd rfl h, nofun, ?_, ?_⟩
    · intro other hother accountId hne name
      obtain rfl := Option.some.inj hother
      rw [select_insert_of_ne hcredential rfl hne, select_insert_of_ne haccount rfl hne]
    · intro other hother hpassword
      obtain rfl := Option.some.inj hother
      exact absurd hpassword hvalid.2
  | @updated account store₁ _ hvalid haccount haffects hcredential =>
    have haccount' (accountId : String) (hne : accountId ≠ account.accountId) (name : String) :
        store₁.select name (accountIs accountId) = store.select name (accountIs accountId) :=
      select_update_of_ne haccount rfl (fun _ hrow => satisfies_accountIs.mp hrow) hne name
    refine ⟨fun h => absurd rfl h, nofun, ?_, ?_⟩
    · intro other hother accountId hne name
      obtain rfl := Option.some.inj hother
      rw [← haccount' accountId hne]
      split at hcredential
      · rw [hcredential]
      · exact select_update_of_ne hcredential.1 rfl
          (fun _ hrow => (satisfies_passwordOf.mp hrow).1) hne name
    · intro other hother hpassword
      obtain rfl := Option.some.inj hother
      rw [if_pos hpassword] at hcredential
      rw [hcredential]
      exact Store.exec_eq_some_of_ne haccount credentialTable_ne

end

/-! ## Runs -/

section

variable {σ : Type} {db : Program.Handler Call.Answer σ} {content : σ → Session accountSchema}
  {faults : Prop} {counting : Counting} (hdb : Conforms faults counting db content)

include hdb

/-- No transaction is open, and the tables represent a directory. -/
def IdleRepresenting (content : σ → Session accountSchema) (s : σ) : Prop :=
  ∃ store directory, content s = ⟨store, none⟩ ∧ Represents store directory

omit hdb in
/-- Empty tables represent a directory. -/
lemma idleRepresenting_empty {s : σ} (hs : content s = ⟨.empty, none⟩) :
    IdleRepresenting content s :=
  ⟨.empty, Directory.empty, hs, represents_empty⟩

/-- After every run the tables represent a directory. -/
lemma represents_final (calls : List AccountCall) {s : σ} (hs : IdleRepresenting content s) :
    IdleRepresenting content ((service db).final calls s) := by
  refine Machine.final_invariant (I := IdleRepresenting content) (fun call s hs => ?_) calls hs
  obtain ⟨store, directory, hstore, hrepresents⟩ := hs
  obtain ⟨store', hstore', hstep⟩ := accountStep_serve hdb call hstore
  cases represents_step hrepresents hstep with
  | refused hstatus hsame => exact ⟨store', directory, hstore', hsame ▸ hrepresents⟩
  | answered hstatus hagrees hrepresents' => exact ⟨store', _, hstore', hrepresents'⟩

/-- In a run from empty tables the tables are paired after every call, and every call is atomic,
whichever calls of the database fail.

**Proof sketch.** By induction over the run, the tables represent a directory between any two
calls, so they are paired; and each call is one of the steps of `AccountStep`. -/
theorem paired_and_atomic {s : σ} (hs : content s = ⟨.empty, none⟩) (calls : List AccountCall) :
    Paired (content ((service db).final calls s)).committed ∧
    ∀ before call after, calls = before ++ call :: after →
      Atomic (content ((service db).final before s)).committed call
        ((service db).step call ((service db).final before s)).1.1
        (content ((service db).step call ((service db).final before s)).2).committed := by
  have hempty := idleRepresenting_empty hs
  refine ⟨?_, fun before call after _ => ?_⟩
  · obtain ⟨store, directory, hstore, hrepresents⟩ := represents_final hdb calls hempty
    rw [hstore]
    exact hrepresents.paired
  · obtain ⟨store, directory, hstore, -⟩ := represents_final hdb before hempty
    obtain ⟨store', hstore', hstep⟩ := accountStep_serve hdb call hstore
    rw [hstore, hstore']
    exact hstep.atomic

end

/-- The commit of an `AddAccount` fails: the call is refused, and the tables are paired then and
after a second try. -/
theorem paired_and_atomic_sample :
    ((service (unreliable accountSchema)).step Sample.addDisabled
      (Sample.empty, List.replicate 9 false ++ [true])).1.1 = toGrpcStatus .kSystemError ∧
    Paired ((service (unreliable accountSchema)).final [Sample.addDisabled, Sample.addDisabled]
      (Sample.empty, List.replicate 9 false ++ [true])).1.committed ∧
    Atomic Sample.empty.committed Sample.addDisabled
      ((service (unreliable accountSchema)).step Sample.addDisabled
        (Sample.empty, List.replicate 9 false ++ [true])).1.1
      ((service (unreliable accountSchema)).step Sample.addDisabled
        (Sample.empty, List.replicate 9 false ++ [true])).2.1.committed := by
  have hrun := paired_and_atomic (unreliable_conforms accountSchema)
    (s := (Sample.empty, List.replicate 9 false ++ [true])) rfl
    [Sample.addDisabled, Sample.addDisabled]
  have hatomic := hrun.2 [] Sample.addDisabled [Sample.addDisabled] rfl
  rw [Machine.final_nil] at hatomic
  exact ⟨by decide +kernel, hrun.1, hatomic⟩

end AccountService
