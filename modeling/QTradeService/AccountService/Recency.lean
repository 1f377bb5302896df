import QTradeService.AccountService.Linearizability

set_option relaxedAutoImplicit false
set_option autoImplicit false

/-!
# What calls side by side see of each other

Two consequences of the way in which the calls use the database, in every run of calls side by
side. A call that is over has closed its transaction, whatever the database answered. And a
`GetAccount` that begins after an account was written shows this write or a later one.

## Main results

* `AccountService.connections_clean`.
* `AccountService.shown_is_recent`.
-/

namespace AccountService

open Sql Dao Database Grpc Program

section

variable {κ : Type} [DecidableEq κ] {counting : Counting} {calls : κ → AccountCall}
  {store : Store accountSchema} {clients : Callers κ}
  {before after events : List (Event Call.Answer κ (Shared accountSchema κ))}

/-- **A call that is over has no transaction open.** In every run of calls side by side, whatever
the database answers, the connection of a call that is over has no open transaction; that of a call
that does not write never has.

**Proof sketch.** Every program keeps the discipline of its connection: a call that is over is in a
phase in which no transaction is open. A call that does not write only asks, and never opens one. -/
theorem connections_clean (hrun : SideBySide counting calls store events clients) (client : κ) :
    (∀ answer, clients.programs client = .pure answer →
      clients.shared.journals client = none) ∧
    ((calls client).written = none → clients.shared.journals client = none) := by
  have hnow := (disciplined_callers calls store).interleaving hrun
  have hphase := hnow.inPhase client
  constructor
  · intro answer hdone
    rcases hnow.post_of_done hdone with ⟨-, journal, hpublished, -⟩ | ⟨-, hidle⟩
    · rw [hpublished] at hphase
      exact hphase
    · rw [hidle] at hphase
      exact hphase
  · intro hwritten
    refine (journals_of_only hrun ?_ rfl).2
    show (serve (calls client)).Only (Asks accountSchema)
    cases hcall : calls client with
    | getAccount | listAccounts => exact serve_only trivial
    | getCredential request => exact serve_getCredential_only request
    | addAccount request | updateAccount request =>
      obtain ⟨account⟩ := request
      cases account with
      | some account =>
        rw [hcall] at hwritten
        cases hwritten
      | none => exact only_serve False.elim

/-- A request that fails on the primary key rolls its transaction back. -/
theorem connections_clean_sample :
    Sample.race.2.result false = some (toGrpcStatus .kSystemError, .addAccount {}) ∧
    Sample.race.2.shared.journals false = none := by
  have hrefused : Sample.race.2.result false =
      some (toGrpcStatus .kSystemError, .addAccount {}) := by
    decide +kernel
  have hrun : SideBySide countFound (addCalls Sample.rivals) .empty Sample.race.1 Sample.race.2 :=
    interleaving_schedule Shared.serves_serve _ _
  exact ⟨hrefused, (connections_clean hrun false).1 _ (Clients.result_eq_some.mp hrefused)⟩

/-! ## Writes of the directory -/

/-- A call leaves the accounts alone that it does not write.

**Proof sketch.** By cases on the call. The two writing calls set the account of their request, or
nothing. -/
lemma Directory.step_of_ne {directory : Directory} {call : AccountCall} {accountId : String}
    (h : ∀ account ∈ call.written, account.accountId ≠ accountId) :
    (directory.step call).2 accountId = directory accountId := by
  have hset (account : TradingAccount) (hne : account.accountId ≠ accountId) (entry : Entry) :
      directory.set account.accountId entry accountId = directory accountId :=
    Function.update_of_ne hne.symm ..
  cases call with
  | getAccount | listAccounts | getCredential => rfl
  | addAccount request =>
    obtain ⟨account⟩ := request
    cases account with
    | none => rfl
    | some account =>
      show (directory.addAccount account).2 accountId = _
      unfold Directory.addAccount
      split
      · rfl
      · split
        · rfl
        · exact hset account (h account rfl) _
  | updateAccount request =>
    obtain ⟨account⟩ := request
    cases account with
    | none => rfl
    | some account =>
      show (directory.updateAccount account).2 accountId = _
      unfold Directory.updateAccount
      split
      · rfl
      · split
        · rfl
        · exact hset account (h account rfl) _

/-- A call that writes an account and is not refused leaves what it describes.

**Proof sketch.** By cases on the call. One that is not refused went past its checks, and sets the
account. -/
lemma Directory.step_of_written {directory : Directory} {call : AccountCall}
    {account : TradingAccount} {reply : Reply} (hwritten : call.written = some account)
    (hreply : (directory.step call).1 = .ok reply) :
    ∃ password, (directory.step call).2 account.accountId = some (.ofRequest account password) := by
  cases call with
  | getAccount | listAccounts | getCredential => cases hwritten
  | addAccount request =>
    obtain ⟨written⟩ := request
    obtain rfl : written = some account := hwritten
    change (directory.addAccount account).1 = _ at hreply
    show ∃ password, (directory.addAccount account).2 account.accountId = _
    unfold Directory.addAccount at hreply ⊢
    split at hreply
    · cases hreply
    · next hvalid =>
      split at hreply
      · cases hreply
      · next hnone =>
        rw [if_neg hvalid]
        exact ⟨account.password, Function.update_self ..⟩
  | updateAccount request =>
    obtain ⟨written⟩ := request
    obtain rfl : written = some account := hwritten
    change (directory.updateAccount account).1 = _ at hreply
    show ∃ password, (directory.updateAccount account).2 account.accountId = _
    unfold Directory.updateAccount at hreply ⊢
    split at hreply
    · cases hreply
    · next hvalid =>
      split at hreply
      · cases hreply
      · next entry hentry =>
        rw [if_neg hvalid]
        exact ⟨_, Function.update_self ..⟩

omit [DecidableEq κ] in
/-- An account that was written in a run of the directory is as the last write in the order of the
calls describes it.

**Proof sketch.** By induction on the order from its end. The last call writes the account, or it
leaves the account as the calls before it did. -/
lemma exists_lastWrite {directory : Directory} {order : List κ}
    (hok : ∀ before client after, order = before ++ client :: after → ∃ reply,
      ((Directory.machine.final (before.map calls) directory).step (calls client)).1 = .ok reply)
    {writer : κ} {account : TradingAccount} (hwriter : writer ∈ order)
    (hwritten : (calls writer).written = some account) :
    ∃ latest ∈ order, ∃ account' password, (calls latest).written = some account' ∧
      account'.accountId = account.accountId ∧
      Directory.machine.final (order.map calls) directory account.accountId =
        some (.ofRequest account' password) ∧
      (latest = writer ∨ [writer, latest].Sublist order) := by
  induction order using List.reverseRecOn with
  | nil => cases hwriter
  | append_singleton order client ih =>
    rw [List.map_append, Machine.final_append]
    by_cases hclient : ∃ account', (calls client).written = some account' ∧
        account'.accountId = account.accountId
    · obtain ⟨account', hwritten', haccountId⟩ := hclient
      obtain ⟨reply, hreply⟩ := hok order client [] rfl
      obtain ⟨password, hentry⟩ := Directory.step_of_written hwritten' hreply
      rw [haccountId] at hentry
      refine ⟨client, by simp, account', password, hwritten', haccountId, hentry, ?_⟩
      rcases List.mem_append.mp hwriter with hwriter | hwriter
      · exact .inr ((List.singleton_sublist.mpr hwriter).append (.refl _))
      · exact .inl (List.mem_singleton.mp hwriter).symm
    · have hne : ∀ account' ∈ (calls client).written, account'.accountId ≠ account.accountId :=
        fun account' hwritten' haccountId => hclient ⟨account', hwritten', haccountId⟩
      have hmem : writer ∈ order := by
        rcases List.mem_append.mp hwriter with hwriter | hwriter
        · exact hwriter
        · rw [List.mem_singleton.mp hwriter] at hwritten
          exact absurd rfl (hne account hwritten)
      obtain ⟨latest, hlatest, account', password, hwritten', haccountId, hentry, horder⟩ :=
        ih (fun before client' after hsplit => hok before client' (after ++ [client])
          (by rw [hsplit, List.append_assoc, List.cons_append])) hmem
      refine ⟨latest, List.mem_append_left _ hlatest, account', password, hwritten', haccountId,
        ?_, horder.imp id fun horder => horder.trans (List.sublist_append_left _ _)⟩
      exact (Directory.step_of_ne hne).trans hentry

/-- The call of a client was over when another client began its call. -/
def OverBefore (events : List (Event Call.Answer κ (Shared accountSchema κ)))
    (first second : κ) : Prop :=
  ∃ early late, events = early ++ late ∧ (∀ event ∈ late, event.client ≠ first) ∧
    ∀ event ∈ early, event.client ≠ second

omit [DecidableEq κ] in
/-- An answer with `OK` is not a refusal. -/
lemma exists_reply {answer : Status × AccountResponse} {reply : Except ErrorCode Reply}
    (h : Agrees answer reply) (hOK : answer.1 = .OK) : ∃ reply', reply = .ok reply' := by
  cases h with
  | refused response hcode => exact absurd (toGrpcStatus_eq_OK.mp hOK) hcode
  | added | account | accounts | updated | credential => exact ⟨_, rfl⟩

omit [DecidableEq κ] in
/-- `GetAccount` shows the entry of the account. -/
lemma shown_of_agrees {directory : Directory} {accountId : String} {entry : Entry}
    {shown : TradingAccount} (hentry : directory accountId = some entry)
    (h : Agrees (.OK, .getAccount ⟨some shown⟩) (directory.step (.getAccount ⟨accountId⟩)).1) :
    shown = entry.shown accountId := by
  change Agrees _ (directory.getAccount accountId) at h
  unfold Directory.getAccount at h
  split at h
  · cases exists_reply h rfl with
    | intro reply hreply => cases hreply
  · simp only [hentry] at h
    generalize hanswer : (Status.OK, AccountResponse.getAccount ⟨some shown⟩) = answer at h
    cases h
    cases hanswer
    rfl

/-- **`GetAccount` shows the latest write.** When a `GetAccount` begins after a call has written
the account and is over, the account that it shows is as this call has left it, or as a call that
was not over when this one began.

**Proof sketch.** The calls take effect one at a time, the write before the `GetAccount`. What the
directory shows is the last write before it, and this is not an earlier one. -/
theorem shown_is_recent (hrun : SideBySide counting calls store events clients)
    {directory : Directory} (h : Represents store directory) {writer reader : κ}
    {account shown : TradingAccount} {response : AccountResponse}
    (hbegins : OverBefore events writer reader)
    (hwritten : (calls writer).written = some account)
    (hwrote : clients.programs writer = .pure (.OK, response))
    (hget : calls reader = .getAccount ⟨account.accountId⟩)
    (hread : clients.programs reader = .pure (.OK, .getAccount ⟨some shown⟩)) :
    ∃ latest account' password response', (calls latest).written = some account' ∧
      clients.programs latest = .pure (.OK, response') ∧
      account'.accountId = account.accountId ∧
      shown = (Entry.ofRequest account' password).shown account.accountId ∧
      (latest = writer ∨ ¬OverBefore events latest writer) := by
  obtain ⟨hlinear, -⟩ := linearizes_pointsOf hrun h
  obtain ⟨early, late, rfl, hover, hlater⟩ := hbegins
  generalize pointsOf calls clients (early ++ late) = points at hlinear
  have hreads : Completed calls reader (.OK, .getAccount ⟨some shown⟩) := by
    refine ⟨.inr ?_, rfl⟩
    rw [hget]
    trivial
  have hwrites : Completed calls writer (.OK, response) := by
    refine ⟨.inl ?_, rfl⟩
    cases hcall : calls writer with
    | addAccount | updateAccount => trivial
    | getAccount | listAccounts | getCredential =>
      rw [hcall] at hwritten
      cases hwritten
  obtain ⟨point, hpoint, rfl⟩ := List.mem_map.mp ((hlinear.mem reader).mpr ⟨_, hread, hreads⟩)
  obtain ⟨before, after, rfl⟩ := List.append_of_mem hpoint
  have hnotbefore := hlinear.not_before hover hlater
  rw [List.map_append, List.map_cons] at hnotbefore
  -- the write stands before the `GetAccount` in the order of the points
  have hwriter : writer ∈ before.map Event.client := by
    have hmem := (hlinear.mem writer).mpr ⟨_, hwrote, hwrites⟩
    rw [List.map_append, List.map_cons] at hmem
    rcases List.mem_append.mp hmem with hmem | hmem
    · exact hmem
    · rcases List.mem_cons.mp hmem with rfl | hmem
      · rw [hget] at hwritten
        cases hwritten
      · refine absurd ?_ hnotbefore
        have htail := (List.singleton_sublist.mpr hmem).cons_cons point.client
        exact htail.trans (List.sublist_append_right _ _)
  have hok (earlier : List κ) (client : κ) (later : List κ)
      (hsplit : before.map Event.client = earlier ++ client :: later) : ∃ reply,
        ((Directory.machine.final (earlier.map calls) directory).step (calls client)).1 =
          .ok reply := by
    obtain ⟨pre, rest, rfl, rfl, hrest⟩ := List.map_eq_append_iff.mp hsplit
    obtain ⟨first, post, rfl, rfl, rfl⟩ := List.map_eq_cons_iff.mp hrest
    have hfirst : pre ++ first :: post ++ point :: after =
        pre ++ first :: (post ++ point :: after) := by
      rw [List.append_assoc, List.cons_append]
    obtain ⟨answer, hdone, hagrees⟩ := hlinear.agrees_of_split hfirst
    obtain ⟨answer', hdone', -, hOK⟩ := (hlinear.mem first.client).mp (by simp)
    cases hdone.symm.trans hdone'
    rw [List.map_map]
    exact exists_reply hagrees hOK
  obtain ⟨latest, hlatest, account', password, hwritten', haccountId, hentry, horder⟩ :=
    exists_lastWrite hok hwriter hwritten
  obtain ⟨⟨status, response'⟩, hdone, -, hOK⟩ := (hlinear.mem latest).mp (by
    rw [List.map_append]
    exact List.mem_append_left _ hlatest)
  obtain rfl : status = .OK := hOK
  refine ⟨latest, account', password, response', hwritten', hdone, haccountId, ?_, ?_⟩
  · obtain ⟨answer, hdone, hagrees⟩ := hlinear.agrees_of_split rfl
    cases hdone.symm.trans hread
    rw [hget] at hagrees
    rw [List.map_map] at hentry
    exact shown_of_agrees hentry hagrees
  · refine horder.imp id fun horder => ?_
    rintro ⟨early', late', hsplit, hover', hlater'⟩
    rw [hsplit] at hlinear
    refine hlinear.not_before hover' hlater' (horder.trans ?_)
    rw [List.map_append]
    exact List.sublist_append_left _ _

end

namespace Sample

/-- An account is added, and updated while another client asks for it. -/
def addThenGet : Fin 3 → AccountCall
  | 0 => .addAccount ⟨some ⟨"acc", "ctp", "p1", "tcp://a", ""⟩⟩
  | 1 => .updateAccount ⟨some ⟨"acc", "ctp", "", "tcp://b", ""⟩⟩
  | 2 => .getAccount ⟨"acc"⟩

/-- The update begins after the account was added, and commits before the query. -/
def overtaken : List (Event Call.Answer (Fin 3) (Shared accountSchema (Fin 3))) × Callers (Fin 3) :=
  schedule Shared.serve
    (List.replicate 10 0 ++ List.replicate 5 1 ++ List.replicate 3 2 ++ [1, 2])
    (callers addThenGet .empty)

end Sample

set_option maxRecDepth 2000 in
/-- A `GetAccount` after an `AddAccount` shows what an update has left that commits meanwhile. -/
theorem shown_is_recent_sample :
    ∃ latest account' password response', (Sample.addThenGet latest).written = some account' ∧
      Sample.overtaken.2.programs latest = .pure (.OK, response') ∧
      account'.accountId = "acc" ∧
      (⟨"acc", "ctp", "", "tcp://b", "active"⟩ : TradingAccount) =
        (Entry.ofRequest account' password).shown "acc" ∧
      (latest = 0 ∨ ¬OverBefore Sample.overtaken.1 latest 0) := by
  have hrun : SideBySide countFound Sample.addThenGet .empty Sample.overtaken.1
      Sample.overtaken.2 := interleaving_schedule Shared.serves_serve _ _
  have ⟨hadd, hget, hlate, hearly⟩ : Sample.overtaken.2.result 0 = some (.OK, .addAccount {}) ∧
      Sample.overtaken.2.result 2 =
        some (.OK, .getAccount ⟨some ⟨"acc", "ctp", "", "tcp://b", "active"⟩⟩) ∧
      ((Sample.overtaken.1.drop 10).map Event.client).all (· ≠ 0) ∧
      ((Sample.overtaken.1.take 10).map Event.client).all (· ≠ 2) := by
    decide +kernel
  have hbegins : OverBefore Sample.overtaken.1 0 2 := by
    refine ⟨_, _, (List.take_append_drop 10 _).symm, fun event hevent => ?_, fun event hevent => ?_⟩
    · exact of_decide_eq_true (List.all_eq_true.mp hlate _ (List.mem_map_of_mem hevent))
    · exact of_decide_eq_true (List.all_eq_true.mp hearly _ (List.mem_map_of_mem hevent))
  exact shown_is_recent hrun represents_empty hbegins rfl (Clients.result_eq_some.mp hadd) rfl
    (Clients.result_eq_some.mp hget)

end AccountService
