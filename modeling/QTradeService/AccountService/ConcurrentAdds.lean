import QTradeService.AccountService.Pairing
import QTradeService.AccountService.Transactions

set_option relaxedAutoImplicit false
set_option autoImplicit false

/-!
# Accounts added side by side

Any number of `AddAccount` requests, each on a connection of its own, statement by statement in
any order. The check whether the account exists and the inserts are separate statements, so
several requests for one account may all pass the check; the primary key and the transactions let
one of them win.

## Main definitions

* `AccountService.callers`, `AccountService.SideBySide` — calls that are made side by side.
* `AccountService.OneWinner` — for every account at most one request wins, and its rows are there.

## Main results

* `AccountService.one_add_wins`.
-/

namespace AccountService

open Sql Dao Database Grpc Program

/-! ## Calls side by side -/

section

variable {κ : Type} [DecidableEq κ]

/-- The clients of the service, with a connection each. -/
abbrev Callers (κ : Type) :=
  Clients Call.Answer (Status × AccountResponse) κ (Shared accountSchema κ)

/-- Clients that are about to make a call each; no transaction is open. -/
def callers (calls : κ → AccountCall) (store : Store accountSchema) : Callers κ where
  programs client := serve (calls client)
  shared := ⟨store, fun _ => none⟩

/-- The runs of the calls side by side, on a database that holds `store` at first. -/
abbrev SideBySide (counting : Counting) (calls : κ → AccountCall) (store : Store accountSchema) :
    List (Event Call.Answer κ (Shared accountSchema κ)) → Callers κ → Prop :=
  Interleaving (fun client call s => Shared.Serves counting client call s) (callers calls store)

variable {counting : Counting} {calls : κ → AccountCall} {store : Store accountSchema}
  {events : List (Event Call.Answer κ (Shared accountSchema κ))} {clients : Callers κ}

omit [DecidableEq κ] in
/-- The clients keep the discipline of their connections. -/
lemma disciplined_callers (calls : κ → AccountCall) (store : Store accountSchema) :
    Disciplined (fun client => (calls client).Publishes) (fun client => Concluded (calls client))
      (callers calls store) fun _ => .idle where
  follows client := serve_follows (calls client)
  inPhase _ := rfl

/-! ## Inserted accounts -/

/-- The two statements of `AddAccount`. -/
def addStatements (account : TradingAccount) : List Statement :=
  [insertAccount account, insertCredential account]

/-- The two inserts, one after the other. -/
lemma exec_of_replay_addStatements {account : TradingAccount} {store store₂ : Store accountSchema}
    (h : store.replay (addStatements account) = some store₂) :
    ∃ store₁, store.exec (insertAccount account) = some store₁ ∧
      store₁.exec (insertCredential account) = some store₂ := by
  unfold addStatements at h
  rw [Store.replay_cons] at h
  obtain ⟨store₁, haccount, hrest⟩ := Option.bind_eq_some_iff.mp h
  rw [Store.replay_cons] at hrest
  obtain ⟨store₂', hcredential, hdone⟩ := Option.bind_eq_some_iff.mp hrest
  rw [Store.replay_nil] at hdone
  obtain rfl := Option.some.inj hdone
  exact ⟨store₁, haccount, hcredential⟩

/-- The rows of an account after some accounts were added.

**Proof sketch.** By induction on the accounts. Each one appends its row, which matches the
condition if and only if the id is the same. -/
lemma accountRows_replay {accounts : List TradingAccount} {store store' : Store accountSchema}
    (h : store.replay (accounts.flatMap addStatements) = some store') (accountId : String) :
    accountRows store' accountId = accountRows store accountId ++
      (accounts.filter fun account => account.accountId = accountId).map fun account =>
        Row.ofValues (accountValues account) := by
  induction accounts generalizing store with
  | nil =>
    obtain rfl := Option.some.inj h
    simp
  | cons account accounts ih =>
    rw [List.flatMap_cons, Store.replay_append] at h
    obtain ⟨store₂, hadded, hrest⟩ := Option.bind_eq_some_iff.mp h
    obtain ⟨store₁, haccount, hcredential⟩ := exec_of_replay_addStatements hadded
    rw [ih hrest, accountRows_added haccount hcredential, List.append_assoc]
    by_cases hid : account.accountId = accountId
    · simp [hid]
    · simp [hid]

/-- The password rows of an account after some accounts were added.

**Proof sketch.** By induction on the accounts, as for `accountRows_replay`: the insert into the
other table does not matter. -/
lemma credentialRows_replay {accounts : List TradingAccount} {store store' : Store accountSchema}
    (h : store.replay (accounts.flatMap addStatements) = some store') (accountId : String) :
    credentialRows store' accountId = credentialRows store accountId ++
      (accounts.filter fun account => account.accountId = accountId).map fun account =>
        Row.ofValues (credentialValues account) := by
  induction accounts generalizing store with
  | nil =>
    obtain rfl := Option.some.inj h
    simp
  | cons account accounts ih =>
    rw [List.flatMap_cons, Store.replay_append] at h
    obtain ⟨store₂, hadded, hrest⟩ := Option.bind_eq_some_iff.mp h
    obtain ⟨store₁, haccount, hcredential⟩ := exec_of_replay_addStatements hadded
    rw [ih hrest, credentialRows_insertCredential hcredential,
      credentialRows_of_account haccount rfl, ← ofValues_credentialValues, List.append_assoc]
    by_cases hid : account.accountId = accountId
    · simp [hid]
    · simp [hid]

/-- An account has at most one row. -/
lemma length_accountRows_le (store : Store accountSchema) (accountId : String) :
    (accountRows store accountId).length ≤ 1 :=
  store.length_select_le_one tradingAccountTable_mem fun _ hcolumn => hcolumn

/-! ## Published accounts -/

/-- The calls of clients that add accounts. -/
def addCalls (requests : κ → AddAccountRequest) (client : κ) : AccountCall :=
  .addAccount (requests client)

/-- The client has added the account: its request was answered with `OK`. -/
def Won (requests : κ → AddAccountRequest) (clients : Callers κ) (client : κ)
    (account : TradingAccount) : Prop :=
  (requests client).account = some account ∧
    ∃ response, clients.programs client = .pure (.OK, response)

/-- The accounts that were added between two moments, with the clients that added them. -/
structure Adds (requests : κ → AddAccountRequest) (before after : κ → Phase)
    (store store' : Store accountSchema) (adds : List (κ × TradingAccount)) : Prop where
  mem : ∀ client account, (client, account) ∈ adds ↔
    (requests client).account = some account ∧
      after client = .published (addStatements account) ∧
      before client ≠ .published (addStatements account)
  accounts : ∀ accountId, accountRows store' accountId = accountRows store accountId ++
    (adds.filter fun add => add.2.accountId = accountId).map fun add =>
      Row.ofValues (accountValues add.2)
  credentials : ∀ accountId, credentialRows store' accountId = credentialRows store accountId ++
    (adds.filter fun add => add.2.accountId = accountId).map fun add =>
      Row.ofValues (credentialValues add.2)

variable {requests : κ → AddAccountRequest}

omit [DecidableEq κ] in
/-- The statements that an `AddAccount` publishes.

**Proof sketch.** A request without an account publishes nothing; one with an account publishes its
two inserts. -/
lemma publishes_addCalls {client : κ} {journal : List Statement} :
    (addCalls requests client).Publishes journal ↔
      ∃ account, (requests client).account = some account ∧ journal = addStatements account := by
  unfold addCalls
  obtain ⟨account⟩ := requests client
  cases account with
  | none => exact ⟨False.elim, nofun⟩
  | some account =>
    constructor
    · intro h
      exact ⟨account, rfl, h⟩
    · rintro ⟨account', haccount, h⟩
      obtain rfl := Option.some.inj haccount
      exact h

omit [DecidableEq κ] in
/-- Published transactions of clients that add accounts are accounts. -/
lemma exists_accounts {published : List (κ × List Statement)}
    (h : ∀ entry ∈ published, (addCalls requests entry.1).Publishes entry.2) :
    ∃ adds : List (κ × TradingAccount),
      published = adds.map (fun add => (add.1, addStatements add.2)) ∧
      ∀ add ∈ adds, (requests add.1).account = some add.2 := by
  induction published with
  | nil => exact ⟨[], rfl, nofun⟩
  | cons entry published ih =>
    obtain ⟨client, journal⟩ := entry
    obtain ⟨adds, rfl, hadds⟩ := ih fun entry hentry => h entry (List.mem_cons_of_mem _ hentry)
    obtain ⟨account, haccount, rfl⟩ := publishes_addCalls.mp (h _ (List.mem_cons_self ..))
    exact ⟨(client, account) :: adds, rfl, List.forall_mem_cons.mpr ⟨haccount, hadds⟩⟩

/-- What is committed between two moments are the accounts that were added.

**Proof sketch.** What was published is a list of journals in the order of the commits. Each is the
two inserts of an account, which append its rows. -/
lemma exists_adds {phase : κ → Phase}
    {post : κ → Status × AccountResponse → Phase → Prop} {start : Callers κ}
    (h : Disciplined (fun client => (addCalls requests client).Publishes) post start phase)
    (hrun : Interleaving (fun client call s => Shared.Serves counting client call s) start events
      clients) :
    ∃ adds, Adds requests phase
      (phaseAfter accountSchema (fun client => (addCalls requests client).Publishes) phase events)
      start.shared.committed clients.shared.committed adds := by
  obtain ⟨published, hpublished⟩ := h.exists_published hrun
  obtain ⟨adds, rfl, hadds⟩ := exists_accounts hpublished.allowed
  have hreplay : start.shared.committed.replay ((adds.map Prod.snd).flatMap addStatements) =
      some clients.shared.committed := by
    rw [← hpublished.replay, List.flatMap_map, List.flatMap_map]
  refine ⟨adds, ⟨fun client account => ⟨fun hmem => ?_, ?_⟩, fun accountId => ?_,
    fun accountId => ?_⟩⟩
  · exact ⟨hadds _ hmem, (hpublished.mem _ _).mp (List.mem_map.mpr ⟨_, hmem, rfl⟩)⟩
  · rintro ⟨haccount, hphases⟩
    obtain ⟨⟨client', account'⟩, hmem, heq⟩ :=
      List.mem_map.mp ((hpublished.mem client _).mpr hphases)
    obtain rfl : client' = client := congrArg Prod.fst heq
    obtain rfl := Option.some.inj ((hadds _ hmem).symm.trans haccount)
    exact hmem
  · rw [accountRows_replay hreplay, List.filter_map, List.map_map]
    rfl
  · rw [credentialRows_replay hreplay, List.filter_map, List.map_map]
    rfl

/-! ## Winners -/

/-- For every account at most one request wins, none does that comes too late, and what is
committed of an account are the rows from before and those of the entry that the winner describes,
as in the directory. -/
structure OneWinner (requests : κ → AddAccountRequest) (store : Store accountSchema)
    (events : List (Event Call.Answer κ (Shared accountSchema κ))) (clients : Callers κ) :
    Prop where
  unique : ∀ client client' account account', Won requests clients client account →
    Won requests clients client' account' → account.accountId = account'.accountId →
      client = client'
  /-- A request does not win if its account was committed before its first call. -/
  late : ∀ before event after account, events = before ++ event :: after →
    (∀ event' ∈ before, event'.client ≠ event.client) →
    accountRows event.before.committed account.accountId ≠ [] →
      ¬Won requests clients event.client account
  rows : ∀ client account, Won requests clients client account →
    accountRows clients.shared.committed account.accountId =
      [(Entry.ofRequest account account.password).accountRow account.accountId] ∧
    credentialRows clients.shared.committed account.accountId =
      credentialRows store account.accountId ++
        [(Entry.ofRequest account account.password).credentialRow account.accountId]
  others : ∀ accountId,
    (∀ client account, Won requests clients client account → account.accountId ≠ accountId) →
    accountRows clients.shared.committed accountId = accountRows store accountId ∧
    credentialRows clients.shared.committed accountId = credentialRows store accountId

/-- The phases of the clients after the events. -/
abbrev addPhases (requests : κ → AddAccountRequest)
    (events : List (Event Call.Answer κ (Shared accountSchema κ))) : κ → Phase :=
  phaseAfter accountSchema (fun client => (addCalls requests client).Publishes) (fun _ => .idle)
    events

/-- The winners are the clients that have published.

**Proof sketch.** A client whose call is done has published or was refused, and one that has
published is answered with `OK`. -/
lemma won_iff (hrun : SideBySide counting (addCalls requests) store events clients) (client : κ)
    (account : TradingAccount) : Won requests clients client account ↔
      (requests client).account = some account ∧
        addPhases requests events client = .published (addStatements account) := by
  have hnow := (disciplined_callers (addCalls requests) store).interleaving hrun
  constructor
  · rintro ⟨haccount, response, hdone⟩
    refine ⟨haccount, ?_⟩
    rcases hnow.post_of_done hdone with ⟨-, journal, hphase, hpublishes⟩ | ⟨hrefused, -⟩
    · obtain ⟨account', haccount', rfl⟩ := publishes_addCalls.mp hpublishes
      obtain rfl := Option.some.inj (haccount'.symm.trans haccount)
      exact hphase
    · exact absurd rfl (hrefused (by rw [addCalls, AccountCall.written, haccount]; rfl))
  · rintro ⟨haccount, hphase⟩
    obtain ⟨⟨status, response⟩, hdone, hconcluded⟩ := hnow.done_of_published hphase
    rcases hconcluded with ⟨hOK, -⟩ | ⟨-, hidle⟩
    · obtain rfl : status = .OK := hOK
      exact ⟨haccount, response, hdone⟩
    · cases hidle

omit [DecidableEq κ] in
/-- At most one account of an id is added. -/
lemma Adds.length_le {before after : κ → Phase} {store store' : Store accountSchema}
    {adds : List (κ × TradingAccount)} (h : Adds requests before after store store' adds)
    (accountId : String) : (accountRows store accountId).length +
      (adds.filter fun add => add.2.accountId = accountId).length ≤ 1 := by
  have hlength := length_accountRows_le store' accountId
  rw [h.accounts, List.length_append, List.length_map] at hlength
  exact hlength

omit [DecidableEq κ] in
/-- An added account had no row before, and it is added once.

**Proof sketch.** The rows before and the added ones are at most one in all, since the key is the
id, and this one is among the added ones. -/
lemma Adds.filter_eq {before after : κ → Phase} {store store' : Store accountSchema}
    {adds : List (κ × TradingAccount)} (h : Adds requests before after store store' adds)
    {add : κ × TradingAccount} (hadd : add ∈ adds) :
    accountRows store add.2.accountId = [] ∧
      (adds.filter fun add' => add'.2.accountId = add.2.accountId) = [add] := by
  have hmem : add ∈ adds.filter fun add' => add'.2.accountId = add.2.accountId :=
    List.mem_filter.mpr ⟨hadd, decide_eq_true rfl⟩
  have hlength := h.length_le add.2.accountId
  have hadded := List.length_pos_of_mem hmem
  constructor
  · exact List.length_eq_zero_iff.mp (by omega)
  · have hone : (adds.filter fun add' => add'.2.accountId = add.2.accountId).length = 1 := by
      omega
    obtain ⟨add', hadd'⟩ := List.length_eq_one_iff.mp hone
    rw [hadd'] at hmem ⊢
    rw [List.mem_singleton.mp hmem]

omit [DecidableEq κ] in
/-- The rows of an added account. -/
lemma Adds.rows_of_mem {before after : κ → Phase} {store store' : Store accountSchema}
    {adds : List (κ × TradingAccount)} (h : Adds requests before after store store' adds)
    {add : κ × TradingAccount} (hadd : add ∈ adds) :
    accountRows store' add.2.accountId = [Row.ofValues (accountValues add.2)] ∧
      credentialRows store' add.2.accountId =
        credentialRows store add.2.accountId ++ [Row.ofValues (credentialValues add.2)] := by
  obtain ⟨hnone, hone⟩ := h.filter_eq hadd
  rw [h.accounts, h.credentials, hone, hnone]
  exact ⟨rfl, rfl⟩

omit [DecidableEq κ] in
/-- The rows of an account that is not added. -/
lemma Adds.rows_of_forall_ne {before after : κ → Phase} {store store' : Store accountSchema}
    {adds : List (κ × TradingAccount)} (h : Adds requests before after store store' adds)
    {accountId : String} (hadds : ∀ add ∈ adds, add.2.accountId ≠ accountId) :
    accountRows store' accountId = accountRows store accountId ∧
      credentialRows store' accountId = credentialRows store accountId := by
  have hnone : (adds.filter fun add => add.2.accountId = accountId) = [] :=
    List.filter_eq_nil_iff.mpr fun add hadd hid => hadds add hadd (of_decide_eq_true hid)
  rw [h.accounts, h.credentials, hnone]
  exact ⟨List.append_nil _, List.append_nil _⟩

/-- In every run of `AddAccount` requests side by side, at most one request for an account is
answered with `OK`, none that begins when the account is committed already, and the committed
rows of the account are those of the request that was.

**Proof sketch.** What is committed are the published transactions one after the other, and each
of them inserts a row of its account. The primary key has no room for a second one. -/
theorem one_add_wins (hrun : SideBySide counting (addCalls requests) store events clients) :
    OneWinner requests store events clients := by
  have hstart := disciplined_callers (addCalls requests) store
  obtain ⟨adds, hadds⟩ : ∃ adds, Adds requests (fun _ => .idle) (addPhases requests events) store
      clients.shared.committed adds := exists_adds hstart hrun
  have hwon (client : κ) (account : TradingAccount) :
      Won requests clients client account ↔ (client, account) ∈ adds := by
    rw [won_iff hrun, hadds.mem]
    exact ⟨fun h => ⟨h.1, h.2, nofun⟩, fun h => ⟨h.1, h.2.1⟩⟩
  refine { unique := ?_, late := ?_, rows := ?_, others := ?_ }
  · intro client client' account account' h h' hid
    have hmem : (client', account') ∈ adds.filter fun add => add.2.accountId = account.accountId :=
      List.mem_filter.mpr ⟨(hwon client' account').mp h', decide_eq_true hid.symm⟩
    rw [(hadds.filter_eq ((hwon client account).mp h)).2] at hmem
    exact (congrArg Prod.fst (List.mem_singleton.mp hmem)).symm
  · rintro before event after account rfl hfirst hcommitted hlate
    obtain ⟨middle, hbefore, hshared, hafter⟩ := hrun.split_run
    obtain ⟨adds', hadds'⟩ := exists_adds (hstart.interleaving hbefore) hafter
    -- at its first call the client has published nothing, so its account is added after that
    have hidle : addPhases requests before event.client = .idle :=
      Discipline.after_of_forall_ne _ _ hfirst
    have hphases : phaseAfter accountSchema
        (fun client => (addCalls requests client).Publishes) (addPhases requests before)
        (event :: after) event.client = addPhases requests (before ++ event :: after)
          event.client :=
      (Discipline.after_append ..).symm
    have hmem : (event.client, account) ∈ adds' := by
      obtain ⟨haccount, hphase⟩ := (won_iff hrun event.client account).mp hlate
      refine (hadds'.mem _ _).mpr ⟨haccount, hphases.trans hphase, ?_⟩
      show addPhases requests before event.client ≠ _
      rw [hidle]
      exact nofun
    have hnone := (hadds'.filter_eq hmem).1
    rw [hshared] at hnone
    exact hcommitted hnone
  · intro client account h
    rw [← ofValues_accountValues, ← ofValues_credentialValues]
    exact hadds.rows_of_mem ((hwon client account).mp h)
  · intro accountId hnone
    exact hadds.rows_of_forall_ne fun add hadd => hnone add.1 add.2 ((hwon _ _).mpr hadd)

end

namespace Sample

/-- Two requests for one account. -/
def rivals : Bool → AddAccountRequest
  | true => ⟨some ⟨"acc", "ctp", "p1", "tcp://a", ""⟩⟩
  | false => ⟨some ⟨"acc", "ctp", "p2", "tcp://b", ""⟩⟩

/-- Both requests see that the account is new before one of them adds it. -/
def race : List (Event Call.Answer Bool (Shared accountSchema Bool)) × Callers Bool :=
  schedule Shared.serve
    (List.replicate 5 true ++ List.replicate 5 false ++ List.replicate 5 true ++
      List.replicate 4 false)
    (callers (addCalls rivals) .empty)

end Sample

/-- Two requests for one account pass the check; the first one to insert it wins. -/
theorem one_add_wins_sample :
    Sample.race.2.result true = some (.OK, .addAccount {}) ∧
    Sample.race.2.result false = some (toGrpcStatus .kSystemError, .addAccount {}) ∧
    OneWinner Sample.rivals .empty Sample.race.1 Sample.race.2 := by
  have ⟨hfirst, hsecond⟩ : Sample.race.2.result true = some (.OK, .addAccount {}) ∧
      Sample.race.2.result false = some (toGrpcStatus .kSystemError, .addAccount {}) := by
    decide +kernel
  exact ⟨hfirst, hsecond, one_add_wins (interleaving_schedule Shared.serves_serve _ _)⟩

end AccountService
