import Mathlib.Algebra.Order.Ring.Rat
import QTradeService.AccountRisk.Ledger
import QTradeService.Library.Machine

set_option relaxedAutoImplicit false
set_option autoImplicit false

/-!
# The account risk service as a machine

The six calls of `AccountRiskService` as one machine. A call carries everything the
environment decides: the request, the reading of the clock, and the order in which the loops
meet the entries of the reservation map. The mutex makes the calls of all clients one sequence,
in which the readings of the clock need not increase: `ReserveOrder` reads it before it takes
the lock.

## Main definitions

* `AccountRisk.Request`, `AccountRisk.Reply`, `AccountRisk.Call` — the calls and their answers.
* `AccountRisk.service` — the machine, and `AccountRisk.Reachable` its states.
* `AccountRisk.LedgerStep` — what a call can do to the entry of an account.
* `AccountRisk.ReserveOutcome` — the ways in which `ReserveOrder` ends.

## Main results

* `AccountRisk.ledgerStep_serve` — every call makes one of those steps on every entry.
* `AccountRisk.lookup_serve_of_ne`, `AccountRisk.serve_congr` — a call reads and writes the
  ledger of the account it names, and nothing else.
-/

namespace AccountRisk

variable {α : Type}

/-! ## Calls -/

/-- A request to the service. -/
inductive Request (α : Type)
  | reserveOrder (request : ReserveOrderRequest α)
  | queryReservation (request : GetReservationRequest)
  | releaseOrder (request : ReleaseOrderRequest)
  | listActiveReservations (request : ListActiveReservationsRequest)
  | getAccountRiskPolicy (request : GetAccountRiskPolicyRequest)
  | upsertAccountRiskPolicy (request : UpsertAccountRiskPolicyRequest α)
  deriving DecidableEq

/-- An answer of the service: the status and the response message. -/
inductive Reply (α : Type)
  | reserveOrder (status : Grpc.Status) (response : ReserveOrderResponse)
  | queryReservation (status : Grpc.Status) (response : GetReservationResponse)
  | releaseOrder (status : Grpc.Status) (response : ReleaseOrderResponse)
  | listActiveReservations (status : Grpc.Status) (response : ListActiveReservationsResponse)
  | getAccountRiskPolicy (status : Grpc.Status) (response : GetAccountRiskPolicyResponse α)
  | upsertAccountRiskPolicy (status : Grpc.Status)
  deriving DecidableEq

/-- Whether an answer says APPROVED. -/
def Reply.isApproved : Reply α → Bool
  | .reserveOrder _ response => response.decision = .approved
  | _ => false

/-- A call: a request together with what the environment decides about its execution. -/
structure Call (α : Type) where
  request : Request α
  /-- The reading of the clock (Unix milliseconds). -/
  now : ℤ
  /-- The order in which the loops meet the reservations. -/
  order : IterationOrder String

/-- The account that a request names. -/
def Request.account : Request α → String
  | .reserveOrder request => request.accountId
  | .queryReservation request => request.accountId
  | .releaseOrder request => request.accountId
  | .listActiveReservations request => request.accountId
  | .getAccountRiskPolicy request => request.accountId
  | .upsertAccountRiskPolicy request => request.policy.accountId

/-- The account that a call names. -/
abbrev Call.account (call : Call α) : String := call.request.account

section Service

variable [Zero α] [Add α] [Sub α] [Mul α] [NatCast α] [LT α] [DecidableLT α]

/-- Run the handler of a call. -/
def serve (call : Call α) (gLedgers : Ledgers α) : Reply α × Ledgers α :=
  match call.request with
  | .reserveOrder request =>
    let ((status, response), gLedgers') := reserveOrder call.order call.now request gLedgers
    (.reserveOrder status response, gLedgers')
  | .queryReservation request =>
    let ((status, response), gLedgers') := queryReservation call.order call.now request gLedgers
    (.queryReservation status response, gLedgers')
  | .releaseOrder request =>
    let ((status, response), gLedgers') := releaseOrder request gLedgers
    (.releaseOrder status response, gLedgers')
  | .listActiveReservations request =>
    let ((status, response), gLedgers') :=
      listActiveReservations call.order call.now request gLedgers
    (.listActiveReservations status response, gLedgers')
  | .getAccountRiskPolicy request =>
    let ((status, response), gLedgers') := getAccountRiskPolicy request gLedgers
    (.getAccountRiskPolicy status response, gLedgers')
  | .upsertAccountRiskPolicy request =>
    let (status, gLedgers') := upsertAccountRiskPolicy request gLedgers
    (.upsertAccountRiskPolicy status, gLedgers')

/-- The service as a machine. -/
def service : Machine (Ledgers α) (Call α) (Reply α) := ⟨serve⟩

/-- The states that a run from the empty map of ledgers reaches. -/
def Reachable (gLedgers : Ledgers α) : Prop := service.Reachable ∅ gLedgers

/-- A run from the empty map ends in a reachable state. -/
lemma reachable_final (calls : List (Call α)) : Reachable (service.final calls ∅) := ⟨calls, rfl⟩

/-! ## What a call does to a ledger -/

/-- The answer to a `ReserveOrder` that booked a reservation. -/
def bookedResponse (version : ℕ) (reservation : ReservationState α) : ReserveOrderResponse where
  decision := .approved
  policyVersion := version
  reservationId := reservation.reservationId
  expiresAtUnixMs := reservation.expiresAtUnixMs

/-- What a call can answer and do to the entry of the account `a` in the map of ledgers. -/
inductive LedgerStep (a : String) (call : Call α) :
    Reply α → Option (LedgerState α) → Option (LedgerState α) → Prop
  /-- The entry is left alone. -/
  | idle (reply : Reply α) (entry : Option (LedgerState α)) : LedgerStep a call reply entry entry
  /-- The ledger is swept, and nothing else. -/
  | sweep (reply : Reply α) (ledger : LedgerState α) (account : call.account = a) :
      LedgerStep a call reply (some ledger)
        (some (expireReservations call.order ledger call.now))
  /-- The ledger is swept and a new order booked, which passed the gates and the limits. -/
  | book (ledger : LedgerState α) (request : ReserveOrderRequest α)
      (isReserve : call.request = .reserveOrder request) (account : request.accountId = a)
      (gate : (expireReservations call.order ledger call.now).policy.gate call.now
        request.riskConfigVersion = none)
      (new : (expireReservations call.order ledger call.now).reservations.lookup
        request.intent.orderId = none)
      (fits : (expireReservations call.order ledger call.now).exceeded
        (request.reservation call.now).notional (request.reservation call.now).margin = none) :
      LedgerStep a call
        (.reserveOrder .OK (bookedResponse (expireReservations call.order ledger
          call.now).policy.version (request.reservation call.now)))
        (some ledger)
        (some ((expireReservations call.order ledger call.now).book
          request.intent.orderId (request.reservation call.now)))
  /-- A reservation is released. -/
  | release (ledger : LedgerState α) (request : ReleaseOrderRequest)
      (isRelease : call.request = .releaseOrder request) (account : request.accountId = a)
      (reservation : ReservationState α)
      (found : ledger.reservations.lookup request.orderId = some reservation)
      (reserved : reservation.status = "reserved") :
      LedgerStep a call (.releaseOrder .OK { released := true }) (some ledger)
        (some (ledger.retire request.orderId reservation request.reason.label))
  /-- The ledger is created, with a policy. -/
  | create (request : UpsertAccountRiskPolicyRequest α)
      (isUpsert : call.request = .upsertAccountRiskPolicy request)
      (account : request.policy.accountId = a) (version : request.policy.version ≠ 0) :
      LedgerStep a call (.upsertAccountRiskPolicy .OK) none
        (some { (.fresh : LedgerState α) with policy := request.policy })
  /-- The policy is replaced by one whose version is no smaller. -/
  | upsert (ledger : LedgerState α) (request : UpsertAccountRiskPolicyRequest α)
      (isUpsert : call.request = .upsertAccountRiskPolicy request)
      (account : request.policy.accountId = a) (version : request.policy.version ≠ 0)
      (noDecrease : ledger.policy.version ≤ request.policy.version) :
      LedgerStep a call (.upsertAccountRiskPolicy .OK) (some ledger)
        (some { ledger with policy := request.policy })

/-- The four ways in which `ReserveOrder` ends on a swept ledger. -/
inductive ReserveOutcome (now : ℤ) (request : ReserveOrderRequest α) (ledger : LedgerState α) :
    ReserveOrderResponse × LedgerState α → Prop
  /-- A gate of the policy rejects. -/
  | gated (reason : String)
      (gate : ledger.policy.gate now request.riskConfigVersion = some reason) :
      ReserveOutcome now request ledger
        ({ decision := .rejected
           rejectReason := reason
           policyVersion := ledger.policy.version }, ledger)
  /-- The order has an entry, which decides. -/
  | known (existing : ReservationState α)
      (gate : ledger.policy.gate now request.riskConfigVersion = none)
      (found : ledger.reservations.lookup request.intent.orderId = some existing) :
      ReserveOutcome now request ledger
        ({ decision := if existing.status = "reserved" then .approved else .rejected
           rejectReason := if existing.status ≠ "reserved" then "ORDER_ID_ALREADY_TERMINAL" else ""
           policyVersion := ledger.policy.version
           reservationId := existing.reservationId
           expiresAtUnixMs := existing.expiresAtUnixMs }, ledger)
  /-- A limit of the policy rejects. -/
  | exceeded (reason : String)
      (gate : ledger.policy.gate now request.riskConfigVersion = none)
      (new : ledger.reservations.lookup request.intent.orderId = none)
      (exceeds : ledger.exceeded (request.reservation now).notional
        (request.reservation now).margin = some reason) :
      ReserveOutcome now request ledger
        ({ decision := .rejected
           rejectReason := reason
           policyVersion := ledger.policy.version }, ledger)
  /-- The order is booked. -/
  | booked
      (gate : ledger.policy.gate now request.riskConfigVersion = none)
      (new : ledger.reservations.lookup request.intent.orderId = none)
      (fits : ledger.exceeded (request.reservation now).notional
        (request.reservation now).margin = none) :
      ReserveOutcome now request ledger
        (bookedResponse ledger.policy.version (request.reservation now),
          ledger.book request.intent.orderId (request.reservation now))

/-- `ReserveOrder` ends in one of the four ways.

**Proof sketch.** By what the gates, the lookup and the limits answer, in this order. -/
lemma reserveInLedger_outcome (now : ℤ) (request : ReserveOrderRequest α)
    (ledger : LedgerState α) :
    ReserveOutcome now request ledger (reserveInLedger now request ledger) := by
  unfold reserveInLedger
  cases hg : ledger.policy.gate now request.riskConfigVersion with
  | some reason => exact .gated reason hg
  | none =>
    cases hl : ledger.reservations.lookup request.intent.orderId with
    | some existing =>
      simp only [hl]
      exact .known existing hg hl
    | none =>
      simp only [hl]
      cases he : ledger.exceeded (request.reservation now).notional
          (request.reservation now).margin with
      | some reason => exact .exceeded reason hg hl he
      | none => exact .booked hg hl he

omit [Add α] [Mul α] [NatCast α] [Sub α] [LT α] [DecidableLT α] in
/-- The ledger that `operator[]` creates has version `0`, so the version check can fail only on
a ledger that was there before: a valid upsert either creates a ledger or checks an old one. -/
lemma upsertAccountRiskPolicy_valid (request : UpsertAccountRiskPolicyRequest α)
    (gLedgers : Ledgers α)
    (hvalid : ¬(request.policy.accountId = "" ∨ request.policy.version = 0)) :
    upsertAccountRiskPolicy request gLedgers =
      match gLedgers.lookup request.policy.accountId with
      | none => (.OK, (gLedgers.emplace request.policy.accountId .fresh).modify
          request.policy.accountId fun ledger => { ledger with policy := request.policy })
      | some ledger =>
        if ledger.policy.version > request.policy.version then
          (⟨.failedPrecondition, "risk policy version cannot decrease"⟩, gLedgers)
        else
          (.OK, gLedgers.modify request.policy.accountId fun ledger =>
            { ledger with policy := request.policy }) := by
  cases hl : gLedgers.lookup request.policy.accountId with
  | none =>
    simp [upsertAccountRiskPolicy, hvalid, accountKey, UnorderedMap.lookup_emplace_self, hl,
      LedgerState.fresh, AccountRiskPolicy.unset]
  | some ledger =>
    have hmem : request.policy.accountId ∈ gLedgers :=
      AList.lookup_isSome.mp (by rw [hl]; rfl)
    simp [upsertAccountRiskPolicy, hvalid, accountKey, UnorderedMap.emplace_of_mem hmem, hl]

/-- A call that modifies one ledger makes a step on every entry if it makes one on that ledger. -/
lemma ledgerStep_modify {a accountId : String} {call : Call α} {reply : Reply α}
    {gLedgers : Ledgers α} {ledger : LedgerState α} {update : LedgerState α → LedgerState α}
    (hl : gLedgers.lookup accountId = some ledger)
    (hstep : accountId = a → LedgerStep a call reply (some ledger) (some (update ledger))) :
    LedgerStep a call reply (gLedgers.lookup a) ((gLedgers.modify accountId update).lookup a) := by
  by_cases ha : accountId = a
  · subst ha
    simp only [UnorderedMap.lookup_modify_self, hl, Option.map_some]
    exact hstep rfl
  · rw [UnorderedMap.lookup_modify_of_ne (Ne.symm ha)]
    exact .idle _ _

section Steps

variable (a : String) (now : ℤ) (order : IterationOrder String) (gLedgers : Ledgers α)

/-- `ReserveOrder` sweeps the ledger and books a new order that passes, or only sweeps. -/
lemma ledgerStep_reserveOrder (request : ReserveOrderRequest α) :
    LedgerStep a ⟨.reserveOrder request, now, order⟩
      (serve ⟨.reserveOrder request, now, order⟩ gLedgers).1 (gLedgers.lookup a)
      ((serve ⟨.reserveOrder request, now, order⟩ gLedgers).2.lookup a) := by
  simp only [serve, reserveOrder, accountKey]
  split_ifs with hempty
  · exact .idle _ _
  cases hl : gLedgers.lookup request.accountId with
  | none => exact .idle _ _
  | some ledger =>
    refine ledgerStep_modify hl fun ha => ?_
    dsimp only
    have hout := reserveInLedger_outcome now request (expireReservations order ledger now)
    generalize reserveInLedger now request (expireReservations order ledger now) = out at hout
    cases hout with
    | gated reason gate => exact .sweep _ ledger ha
    | known existing gate found => exact .sweep _ ledger ha
    | exceeded reason gate new exceeds => exact .sweep _ ledger ha
    | booked gate new fits => exact .book ledger request rfl ha gate new fits

/-- `QueryReservation` sweeps the ledger. -/
lemma ledgerStep_queryReservation (request : GetReservationRequest) :
    LedgerStep a ⟨.queryReservation request, now, order⟩
      (serve ⟨.queryReservation request, now, order⟩ gLedgers).1 (gLedgers.lookup a)
      ((serve ⟨.queryReservation request, now, order⟩ gLedgers).2.lookup a) := by
  simp only [serve, queryReservation, accountKey]
  split_ifs with hempty
  · exact .idle _ _
  cases hl : gLedgers.lookup request.accountId with
  | none => exact .idle _ _
  | some ledger => exact ledgerStep_modify hl fun ha => .sweep _ ledger ha

/-- `ReleaseOrder` retires the reservation of the order, if that is reserved. -/
lemma ledgerStep_releaseOrder (request : ReleaseOrderRequest) :
    LedgerStep a ⟨.releaseOrder request, now, order⟩
      (serve ⟨.releaseOrder request, now, order⟩ gLedgers).1 (gLedgers.lookup a)
      ((serve ⟨.releaseOrder request, now, order⟩ gLedgers).2.lookup a) := by
  simp only [serve, releaseOrder, accountKey]
  split_ifs with hempty
  · exact .idle _ _
  cases hl : gLedgers.lookup request.accountId with
  | none => exact .idle _ _
  | some ledger =>
    refine ledgerStep_modify hl fun ha => ?_
    simp only [releaseInLedger]
    cases hr : ledger.reservations.lookup request.orderId with
    | none => exact .idle _ _
    | some reservation =>
      simp only
      split_ifs with hs
      · exact .release ledger request rfl ha reservation hr hs
      · exact .idle _ _

/-- `ListActiveReservations` sweeps the ledger. -/
lemma ledgerStep_listActiveReservations (request : ListActiveReservationsRequest) :
    LedgerStep a ⟨.listActiveReservations request, now, order⟩
      (serve ⟨.listActiveReservations request, now, order⟩ gLedgers).1 (gLedgers.lookup a)
      ((serve ⟨.listActiveReservations request, now, order⟩ gLedgers).2.lookup a) := by
  simp only [serve, listActiveReservations, accountKey]
  cases hl : gLedgers.lookup request.accountId with
  | none => exact .idle _ _
  | some ledger => exact ledgerStep_modify hl fun ha => .sweep _ ledger ha

/-- `GetAccountRiskPolicy` changes nothing. -/
lemma ledgerStep_getAccountRiskPolicy (request : GetAccountRiskPolicyRequest) :
    LedgerStep a ⟨.getAccountRiskPolicy request, now, order⟩
      (serve ⟨.getAccountRiskPolicy request, now, order⟩ gLedgers).1 (gLedgers.lookup a)
      ((serve ⟨.getAccountRiskPolicy request, now, order⟩ gLedgers).2.lookup a) := by
  simp only [serve, getAccountRiskPolicy, accountKey]
  cases gLedgers.lookup request.accountId with
  | none => exact .idle _ _
  | some ledger => exact .idle _ _

/-- `UpsertAccountRiskPolicy` creates the ledger or replaces its policy, unless that would be a
step back. -/
lemma ledgerStep_upsertAccountRiskPolicy (request : UpsertAccountRiskPolicyRequest α) :
    LedgerStep a ⟨.upsertAccountRiskPolicy request, now, order⟩
      (serve ⟨.upsertAccountRiskPolicy request, now, order⟩ gLedgers).1 (gLedgers.lookup a)
      ((serve ⟨.upsertAccountRiskPolicy request, now, order⟩ gLedgers).2.lookup a) := by
  simp only [serve]
  by_cases hvalid : request.policy.accountId = "" ∨ request.policy.version = 0
  · rw [upsertAccountRiskPolicy, if_pos hvalid]
    exact .idle _ _
  rw [upsertAccountRiskPolicy_valid request gLedgers hvalid]
  obtain ⟨-, hversion⟩ := not_or.mp hvalid
  cases hl : gLedgers.lookup request.policy.accountId with
  | none =>
    by_cases ha : request.policy.accountId = a
    · subst ha
      simp only [UnorderedMap.lookup_modify_self, UnorderedMap.lookup_emplace_self, hl,
        Option.getD_none, Option.map_some]
      exact .create request rfl rfl hversion
    · simp only [UnorderedMap.lookup_modify_of_ne (Ne.symm ha),
        UnorderedMap.lookup_emplace_of_ne (Ne.symm ha)]
      exact .idle _ _
  | some ledger =>
    simp only
    split_ifs with hdecrease
    · exact .idle _ _
    · refine ledgerStep_modify hl fun ha => ?_
      exact .upsert ledger request rfl ha hversion (not_lt.mp hdecrease)

end Steps

/-- Every call makes one of the steps above on the entry of every account. -/
theorem ledgerStep_serve (a : String) (call : Call α) (gLedgers : Ledgers α) :
    LedgerStep a call (serve call gLedgers).1 (gLedgers.lookup a)
      ((serve call gLedgers).2.lookup a) := by
  obtain ⟨request, now, order⟩ := call
  cases request with
  | reserveOrder request => exact ledgerStep_reserveOrder a now order gLedgers request
  | queryReservation request => exact ledgerStep_queryReservation a now order gLedgers request
  | releaseOrder request => exact ledgerStep_releaseOrder a now order gLedgers request
  | listActiveReservations request =>
    exact ledgerStep_listActiveReservations a now order gLedgers request
  | getAccountRiskPolicy request =>
    exact ledgerStep_getAccountRiskPolicy a now order gLedgers request
  | upsertAccountRiskPolicy request =>
    exact ledgerStep_upsertAccountRiskPolicy a now order gLedgers request

/-! ## The answers of ReserveOrder -/

/-- `ReserveOrder` with the required fields, on an account with a ledger. -/
lemma serve_reserveOrder {call : Call α} {request : ReserveOrderRequest α}
    (hreq : call.request = .reserveOrder request)
    (hids : ¬(request.accountId = "" ∨ request.intent.orderId = "")) {gLedgers : Ledgers α}
    {ledger : LedgerState α} (hl : gLedgers.lookup request.accountId = some ledger) :
    (serve call gLedgers).1 = .reserveOrder .OK
        (reserveInLedger call.now request (expireReservations call.order ledger call.now)).1 ∧
      (serve call gLedgers).2.lookup request.accountId = some
        (reserveInLedger call.now request (expireReservations call.order ledger call.now)).2 := by
  simp [serve, hreq, reserveOrder, hids, accountKey, hl]

/-- An approved `ReserveOrder` found a ledger whose policy let it pass, and the order was
already reserved or is booked now. -/
lemma reserveOrder_approved {call : Call α} {request : ReserveOrderRequest α}
    (hreq : call.request = .reserveOrder request) {gLedgers : Ledgers α}
    (happroved : (serve call gLedgers).1.isApproved = true) :
    ∃ ledger, gLedgers.lookup request.accountId = some ledger ∧
      ∃ out, ReserveOutcome call.now request (expireReservations call.order ledger call.now) out ∧
        out.1.decision = .approved ∧ (serve call gLedgers).1 = .reserveOrder .OK out.1 ∧
        (serve call gLedgers).2.lookup request.accountId = some out.2 := by
  by_cases hids : request.accountId = "" ∨ request.intent.orderId = ""
  · simp [serve, hreq, reserveOrder, hids, Reply.isApproved] at happroved
  · cases hl : gLedgers.lookup request.accountId with
    | none => simp [serve, hreq, reserveOrder, hids, accountKey, hl, Reply.isApproved] at happroved
    | some ledger =>
      obtain ⟨hreply, hafter⟩ := serve_reserveOrder hreq hids hl
      refine ⟨ledger, rfl, _, reserveInLedger_outcome _ _ _, ?_, hreply, hafter⟩
      rw [hreply] at happroved
      simpa [Reply.isApproved] using happroved

/-! ## Isolation of the accounts -/

/-- A step on the entry of an account that the call does not name changes nothing. -/
lemma LedgerStep.eq_of_ne {a : String} {call : Call α} {reply : Reply α}
    {entry entry' : Option (LedgerState α)} (h : LedgerStep a call reply entry entry')
    (ha : call.account ≠ a) : entry' = entry := by
  obtain ⟨request, now, order⟩ := call
  cases h with
  | idle => rfl
  | sweep reply ledger account => exact absurd account ha
  | book ledger request isReserve account => subst isReserve; exact absurd account ha
  | release ledger request isRelease account => subst isRelease; exact absurd account ha
  | create request isUpsert account => subst isUpsert; exact absurd account ha
  | upsert ledger request isUpsert account => subst isUpsert; exact absurd account ha

/-- A call leaves the ledgers of the accounts it does not name alone. -/
lemma lookup_serve_of_ne {a : String} {call : Call α} (ha : call.account ≠ a)
    (gLedgers : Ledgers α) : (serve call gLedgers).2.lookup a = gLedgers.lookup a :=
  (ledgerStep_serve a call gLedgers).eq_of_ne ha

/-- The answer to a call, and the ledger it leaves, depend only on the ledger of the account
that the call names.

**Proof sketch.** By cases on the request: every handler looks up one ledger and replaces at most
that one. -/
lemma serve_congr {call : Call α} {gLedgers gLedgers' : Ledgers α}
    (h : gLedgers.lookup call.account = gLedgers'.lookup call.account) :
    (serve call gLedgers).1 = (serve call gLedgers').1 ∧
      (serve call gLedgers).2.lookup call.account =
        (serve call gLedgers').2.lookup call.account := by
  obtain ⟨request, now, order⟩ := call
  cases request with
  | reserveOrder request =>
    simp only [Call.account, Request.account] at h ⊢
    simp only [serve, reserveOrder, accountKey, h]
    split_ifs
    · exact ⟨rfl, h⟩
    · cases hl : gLedgers'.lookup request.accountId <;> simp [h, hl]
  | queryReservation request =>
    simp only [Call.account, Request.account] at h ⊢
    simp only [serve, queryReservation, accountKey, h]
    split_ifs
    · exact ⟨rfl, h⟩
    · cases hl : gLedgers'.lookup request.accountId <;> simp [h, hl]
  | releaseOrder request =>
    simp only [Call.account, Request.account] at h ⊢
    simp only [serve, releaseOrder, accountKey, h]
    split_ifs
    · exact ⟨rfl, h⟩
    · cases hl : gLedgers'.lookup request.accountId <;> simp [h, hl]
  | listActiveReservations request =>
    simp only [Call.account, Request.account] at h ⊢
    simp only [serve, listActiveReservations, accountKey, h]
    cases hl : gLedgers'.lookup request.accountId <;> simp [h, hl]
  | getAccountRiskPolicy request =>
    simp only [Call.account, Request.account] at h ⊢
    simp only [serve, getAccountRiskPolicy, accountKey, h]
    cases hl : gLedgers'.lookup request.accountId <;> simp [h, hl]
  | upsertAccountRiskPolicy request =>
    simp only [Call.account, Request.account] at h ⊢
    simp only [serve]
    by_cases hvalid : request.policy.accountId = "" ∨ request.policy.version = 0
    · rw [upsertAccountRiskPolicy, if_pos hvalid, upsertAccountRiskPolicy, if_pos hvalid]
      exact ⟨rfl, h⟩
    · rw [upsertAccountRiskPolicy_valid _ _ hvalid, upsertAccountRiskPolicy_valid _ _ hvalid, h]
      cases hl : gLedgers'.lookup request.policy.accountId with
      | none => simp [UnorderedMap.lookup_emplace_self, h, hl]
      | some ledger =>
        simp only
        split_ifs <;> simp [h, hl]

end Service

/-! ## Sample calls -/

namespace Sample

/-- A policy of the account `acc` with a limit of 100 on the notional. -/
def policy (version : ℕ) (enabled : Bool) : AccountRiskPolicy ℚ :=
  { AccountRiskPolicy.unset with
    accountId := "acc", version := version, maxNotional := 100, enabled := enabled }

/-- Store that policy. -/
def upsert (version : ℕ) (enabled : Bool) : Call ℚ :=
  ⟨.upsertAccountRiskPolicy ⟨policy version enabled⟩, 0, .stored⟩

/-- Read the policy of the account `acc`. -/
def get : Call ℚ := ⟨.getAccountRiskPolicy ⟨"acc"⟩, 0, .stored⟩

/-- Reserve 10 per piece for an order of the account `acc` at the time `now`, under the policy
of the given version. -/
def reservePinned (version : ℕ) (orderId : String) (quantity : ℕ) (now : ℤ) : Call ℚ :=
  ⟨.reserveOrder ⟨"acc", ⟨orderId, 10, quantity, 0, 5⟩, version, 0⟩, now, .stored⟩

/-- Reserve under any policy. -/
def reserve : String → ℕ → ℤ → Call ℚ := reservePinned 0

/-- Release an order of the account `acc`. -/
def release (orderId : String) : Call ℚ :=
  ⟨.releaseOrder ⟨"acc", orderId, .canceled⟩, 0, .stored⟩

end Sample

end AccountRisk
