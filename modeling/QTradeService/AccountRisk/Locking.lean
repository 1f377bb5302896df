import QTradeService.AccountRisk.Service
import QTradeService.Library.Mutex

set_option relaxedAutoImplicit false
set_option autoImplicit false

/-!
# The handlers under their mutex

`QTradeService.AccountRisk.Service` takes a call of the account risk service for one step. Here
the handlers are what they are in `account_risk_grpc_service.cpp`, one statement after the other:
they take `g_ledger_mutex`, read and assign the fields of a ledger, loop over its reservations, and
release the mutex. Any number of them run beside each other, their statements in any order. What
they answer, and the ledgers they leave, is what the machine of one step a call answers and leaves
in the order in which they release the mutex.

## Main definitions

* `AccountRisk.Access`, `AccountRisk.access` — the accesses of a handler to the clock and to
  `g_ledgers`.
* `AccountRisk.Locked.serve` — the six handlers, statement by statement.

## Main results

* `AccountRisk.Locked.runs_serve` — a handler that runs alone does what `AccountRisk.serve` does.
* `AccountRisk.locked_calls_linearize` — handlers that run beside each other answer as the machine
  does.
-/

namespace AccountRisk

open Program Mutex

variable {α : Type}

/-! ## Accesses -/

/-- What a handler accesses: the clock, the order in which its loops meet the entries of the
reservation map, and the entries of `g_ledgers`. -/
inductive Access (α : Type)
  /-- `UnixMillisNow()`. -/
  | clock
  /-- The order of the range-based loops over `ledger.reservations`. -/
  | iterate
  /-- `g_ledgers.find(key)`, or a read through the reference to the ledger. -/
  | find (key : String)
  /-- An assignment through the reference to the ledger. -/
  | assign (key : String) (update : LedgerState α → LedgerState α)
  /-- `g_ledgers[key]`. -/
  | subscript (key : String)

/-- What an access answers. -/
@[reducible] def Access.Answer : Access α → Type
  | .clock => ℤ
  | .iterate => IterationOrder String
  | .find _ => Option (LedgerState α)
  | .assign .. | .subscript _ => Unit

/-- What an access may answer, and do to `g_ledgers`. -/
def access [Zero α] : Effect (Access.Answer (α := α)) (Ledgers α)
  | .clock, s, _, t => s = t
  | .iterate, s, _, t => s = t
  | .find key, s, found, t => s.lookup key = found ∧ s = t
  | .assign key update, s, _, t => s.modify key update = t
  | .subscript key, s, _, t => s.emplace key .fresh = t

/-- The accesses outside of the critical section. -/
def Access.IsClock : Access α → Prop
  | .clock => True
  | _ => False

/-- Read the clock. -/
def unixMillisNow : Program (Access.Answer (α := α)) ℤ := request Access.clock

/-- The order of the loops of a call. -/
def iterate : Program (Access.Answer (α := α)) (IterationOrder String) := request Access.iterate

/-- Look up `key` in `g_ledgers`. -/
def findLedger (key : String) : Program (Access.Answer (α := α)) (Option (LedgerState α)) :=
  request (Access.find key)

/-- Look up `key` in `g_ledgers`, or add a ledger there. -/
def subscriptLedger (key : String) : Program (Access.Answer (α := α)) Unit :=
  request (Access.subscript key)

/-- Read fields of the ledger at `key`, through a reference to it. -/
def readLedger [Zero α] (key : String) : Program (Access.Answer (α := α)) (LedgerState α) :=
  (fun found => found.getD .fresh) <$> findLedger key

/-- Assign to a field of the ledger at `key`. -/
def assignLedger (key : String) (update : LedgerState α → LedgerState α) :
    Program (Access.Answer (α := α)) Unit :=
  request (Access.assign key update)

namespace Locked

/-! ## Debits -/

section

variable [Zero α] [Sub α] [LT α] [DecidableLT α]

/-- The assignments that `ExpireReservations` and `ReleaseOrder` share. -/
def retire (key orderId : String) (reservation : ReservationState α) (status : String) :
    Program (Access.Answer (α := α)) Unit := do
  assignLedger key fun ledger => { ledger with
    reservations := ledger.reservations.modify orderId fun r => { r with status := status } }
  let reservedNotional := (← readLedger key).reservedNotional
  assignLedger key fun ledger => { ledger with
    reservedNotional := stdMax 0 (reservedNotional - reservation.notional) }
  let reservedMargin := (← readLedger key).reservedMargin
  assignLedger key fun ledger => { ledger with
    reservedMargin := stdMax 0 (reservedMargin - reservation.margin) }
  if (← readLedger key).reservedOpenOrders > 0 then
    let reservedOpenOrders := (← readLedger key).reservedOpenOrders
    assignLedger key fun ledger => { ledger with reservedOpenOrders := reservedOpenOrders - 1 }

/-- The loop of `ExpireReservations`, over the entries that it has still to meet. -/
def expireEach (key : String) (now : ℤ) : List String → Program (Access.Answer (α := α)) Unit
  | [] => return
  | orderId :: orderIds => do
    if let some reservation := (← readLedger key).reservations.lookup orderId then
      if reservation.lapsed now then
        retire key orderId reservation "expired"
    expireEach key now orderIds

/-- Retire every reservation that has lapsed at `now` (`ExpireReservations`). -/
def expireReservations (order : IterationOrder String) (key : String) (now : ℤ) :
    Program (Access.Answer (α := α)) Unit := do
  expireEach key now (order.visit (← readLedger key).reservations.keys)

end

/-! ## The handlers -/

section

variable [Zero α] [Add α] [Sub α] [Mul α] [NatCast α] [LT α] [DecidableLT α]

/-- `ReserveOrder` on the ledger at `key`, after the sweep. -/
def reserveInLedger (key : String) (now : ℤ) (request : ReserveOrderRequest α) :
    Program (Access.Answer (α := α)) ReserveOrderResponse := do
  let response : ReserveOrderResponse := { policyVersion := (← readLedger key).policy.version }
  let orderId := request.intent.orderId
  match (← readLedger key).policy.gate now request.riskConfigVersion with
  | some reason => return { response with decision := .rejected, rejectReason := reason }
  | none =>
    match (← readLedger key).reservations.lookup orderId with
    | some existing =>
      return { response with
        decision := if existing.status = "reserved" then .approved else .rejected
        rejectReason := if existing.status ≠ "reserved" then "ORDER_ID_ALREADY_TERMINAL" else ""
        reservationId := existing.reservationId
        expiresAtUnixMs := existing.expiresAtUnixMs }
    | none =>
      let reservation := request.reservation now
      match (← readLedger key).exceeded reservation.notional reservation.margin with
      | some reason => return { response with decision := .rejected, rejectReason := reason }
      | none =>
        let reservedNotional := (← readLedger key).reservedNotional
        assignLedger key fun ledger => { ledger with
          reservedNotional := reservedNotional + reservation.notional }
        let reservedMargin := (← readLedger key).reservedMargin
        assignLedger key fun ledger => { ledger with
          reservedMargin := reservedMargin + reservation.margin }
        let reservedOpenOrders := (← readLedger key).reservedOpenOrders
        assignLedger key fun ledger => { ledger with
          reservedOpenOrders := reservedOpenOrders + 1 }
        assignLedger key fun ledger => { ledger with
          reservations := ledger.reservations.emplace orderId reservation }
        return { response with
          decision := .approved
          reservationId := reservation.reservationId
          expiresAtUnixMs := reservation.expiresAtUnixMs }

/-- `ReserveOrder` in its critical section. -/
def reserveUnderLock (now : ℤ) (request : ReserveOrderRequest α) :
    Program (Access.Answer (α := α)) (Grpc.Status × ReserveOrderResponse) := do
  let key := accountKey request.accountId
  match ← findLedger key with
  | none =>
    return (.OK, { decision := .rejected, rejectReason := "ACCOUNT_RISK_POLICY_NOT_FOUND" })
  | some _ =>
    expireReservations (← iterate) key now
    return (.OK, ← reserveInLedger key now request)

/-- The handler `ReserveOrder`, which reads the clock before it takes the mutex. -/
def reserveOrder (request : ReserveOrderRequest α) :
    Program (Mutex.Call.Answer (Access.Answer (α := α))) (Grpc.Status × ReserveOrderResponse) := do
  if request.accountId = "" ∨ request.intent.orderId = "" then
    return (invalidArgument "account_id and intent.order_id are required", {})
  let now ← unixMillisNow.translate inner
  withLock (reserveUnderLock now request)

/-- `QueryReservation` in its critical section. -/
def queryUnderLock (request : GetReservationRequest) :
    Program (Access.Answer (α := α)) (Grpc.Status × GetReservationResponse) := do
  let key := accountKey request.accountId
  match ← findLedger key with
  | none => return (⟨.notFound, "account risk ledger not found"⟩, {})
  | some _ =>
    let now ← unixMillisNow
    expireReservations (← iterate) key now
    match (← readLedger key).reservations.lookup request.orderId with
    | none => return (⟨.notFound, "reservation not found"⟩, {})
    | some state => return (.OK, { reservation := some (state.view request.orderId) })

/-- The handler `QueryReservation`. -/
def queryReservation (request : GetReservationRequest) :
    Program (Mutex.Call.Answer (Access.Answer (α := α)))
      (Grpc.Status × GetReservationResponse) := do
  if request.accountId = "" ∨ request.orderId = "" then
    return (invalidArgument "account_id and order_id are required", {})
  withLock (queryUnderLock request)

/-- `ReleaseOrder` in its critical section. -/
def releaseUnderLock (request : ReleaseOrderRequest) :
    Program (Access.Answer (α := α)) (Grpc.Status × ReleaseOrderResponse) := do
  let key := accountKey request.accountId
  match ← findLedger key with
  | none =>
    return (.OK, { released := false, rejectReason := "ACCOUNT_RISK_POLICY_NOT_FOUND" })
  | some _ =>
    if let some reservation := (← readLedger key).reservations.lookup request.orderId then
      if reservation.status = "reserved" then
        retire key request.orderId reservation request.reason.label
    return (.OK, { released := true })

/-- The handler `ReleaseOrder`. -/
def releaseOrder (request : ReleaseOrderRequest) :
    Program (Mutex.Call.Answer (Access.Answer (α := α)))
      (Grpc.Status × ReleaseOrderResponse) := do
  if request.accountId = "" ∨ request.orderId = "" then
    return (invalidArgument "account_id and order_id are required", {})
  withLock (releaseUnderLock request)

/-- The loop of `ListActiveReservations`, over the entries that it has still to meet. -/
def listEach (key : String) :
    List String → Program (Access.Answer (α := α)) (List Reservation)
  | [] => return []
  | orderId :: orderIds => do
    match (← readLedger key).reservations.lookup orderId with
    | none => listEach key orderIds
    | some state =>
      if state.status ≠ "reserved" then
        listEach key orderIds
      else
        return state.view orderId :: (← listEach key orderIds)

/-- `ListActiveReservations` in its critical section. Between its two loops the map gets no new
entry, so that both meet the entries in the same order. -/
def listUnderLock (request : ListActiveReservationsRequest) :
    Program (Access.Answer (α := α)) (Grpc.Status × ListActiveReservationsResponse) := do
  let key := accountKey request.accountId
  match ← findLedger key with
  | none => return (.OK, {})
  | some _ =>
    let now ← unixMillisNow
    let order ← iterate
    expireReservations order key now
    return (.OK, ⟨← listEach key (order.visit (← readLedger key).reservations.keys)⟩)

/-- The handler `ListActiveReservations`. -/
def listActiveReservations (request : ListActiveReservationsRequest) :
    Program (Mutex.Call.Answer (Access.Answer (α := α)))
      (Grpc.Status × ListActiveReservationsResponse) :=
  withLock (listUnderLock request)

/-- `GetAccountRiskPolicy` in its critical section. -/
def getPolicyUnderLock (request : GetAccountRiskPolicyRequest) :
    Program (Access.Answer (α := α)) (Grpc.Status × GetAccountRiskPolicyResponse α) := do
  let key := accountKey request.accountId
  match ← findLedger key with
  | none => return (⟨.notFound, "account risk policy not found"⟩, {})
  | some _ => return (.OK, { policy := some (← readLedger key).policy })

/-- The handler `GetAccountRiskPolicy`. -/
def getAccountRiskPolicy (request : GetAccountRiskPolicyRequest) :
    Program (Mutex.Call.Answer (Access.Answer (α := α)))
      (Grpc.Status × GetAccountRiskPolicyResponse α) :=
  withLock (getPolicyUnderLock request)

/-- `UpsertAccountRiskPolicy` in its critical section. -/
def upsertUnderLock (policy : AccountRiskPolicy α) :
    Program (Access.Answer (α := α)) Grpc.Status := do
  let key := accountKey policy.accountId
  subscriptLedger key
  if (← readLedger key).policy.version > policy.version then
    return ⟨.failedPrecondition, "risk policy version cannot decrease"⟩
  assignLedger key fun ledger => { ledger with policy := policy }
  return .OK

/-- The handler `UpsertAccountRiskPolicy`. -/
def upsertAccountRiskPolicy (request : UpsertAccountRiskPolicyRequest α) :
    Program (Mutex.Call.Answer (Access.Answer (α := α))) Grpc.Status := do
  if request.policy.accountId = "" ∨ request.policy.version = 0 then
    return invalidArgument "account_id and non-zero version are required"
  withLock (upsertUnderLock request.policy)

/-- Run the handler of a request. -/
def serve : Request α → Program (Mutex.Call.Answer (Access.Answer (α := α))) (Reply α)
  | .reserveOrder request =>
    (fun answer => .reserveOrder answer.1 answer.2) <$> reserveOrder request
  | .queryReservation request =>
    (fun answer => .queryReservation answer.1 answer.2) <$> queryReservation request
  | .releaseOrder request =>
    (fun answer => .releaseOrder answer.1 answer.2) <$> releaseOrder request
  | .listActiveReservations request =>
    (fun answer => .listActiveReservations answer.1 answer.2) <$> listActiveReservations request
  | .getAccountRiskPolicy request =>
    (fun answer => .getAccountRiskPolicy answer.1 answer.2) <$> getAccountRiskPolicy request
  | .upsertAccountRiskPolicy request =>
    .upsertAccountRiskPolicy <$> upsertAccountRiskPolicy request

end

/-! ## A handler alone -/

section

variable [Zero α] {s t : Ledgers α} {key : String}

@[simp] lemma runs_unixMillisNow {now : ℤ} : Runs access unixMillisNow s now t ↔ s = t :=
  runs_request

@[simp] lemma runs_iterate {order : IterationOrder String} :
    Runs access iterate s order t ↔ s = t :=
  runs_request

@[simp] lemma runs_findLedger {found : Option (LedgerState α)} :
    Runs access (findLedger key) s found t ↔ s.lookup key = found ∧ s = t :=
  runs_request

@[simp] lemma runs_subscriptLedger {u : Unit} :
    Runs access (subscriptLedger key) s u t ↔ s.emplace key .fresh = t :=
  runs_request

@[simp] lemma runs_readLedger {ledger : LedgerState α} :
    Runs access (readLedger key) s ledger t ↔ (s.lookup key).getD .fresh = ledger ∧ s = t := by
  simp only [readLedger, runs_map, runs_findLedger]
  constructor
  · rintro ⟨found, ⟨rfl, rfl⟩, rfl⟩
    exact ⟨rfl, rfl⟩
  · rintro ⟨rfl, rfl⟩
    exact ⟨_, ⟨rfl, rfl⟩, rfl⟩

@[simp] lemma runs_assignLedger {update : LedgerState α → LedgerState α} {u : Unit} :
    Runs access (assignLedger key update) s u t ↔ s.modify key update = t :=
  runs_request

/-- What the loop of `ListActiveReservations` adds for an entry. -/
def activeView (ledger : LedgerState α) (orderId : String) : Option Reservation :=
  match ledger.reservations.lookup orderId with
  | none => none
  | some state => if state.status ≠ "reserved" then none else some (state.view orderId)

omit [Zero α] in
/-- The model of the loop. -/
lemma listInLedger_eq (order : IterationOrder String) (ledger : LedgerState α) :
    listInLedger order ledger =
      ⟨(order.visit ledger.reservations.keys).filterMap (activeView ledger)⟩ := rfl

/-- The loop of `ListActiveReservations`. -/
lemma runs_listEach {visits : List String} {out : List Reservation} :
    Runs access (listEach (α := α) key visits) s out t ↔
      visits.filterMap (activeView ((s.lookup key).getD .fresh)) = out ∧ s = t := by
  induction visits generalizing out with
  | nil => simp [listEach]
  | cons orderId visits ih =>
    cases hr : ((s.lookup key).getD .fresh).reservations.lookup orderId with
    | none => simp [listEach, hr, ih, activeView]
    | some state =>
      by_cases hstatus : state.status = "reserved"
      · simp [listEach, hr, hstatus, ih, activeView, and_comm]
      · simp [listEach, hr, hstatus, ih, activeView]

end

section

variable [Zero α] [Sub α] [LT α] [DecidableLT α] {s t : Ledgers α} {key : String}
  {ledger : LedgerState α}

/-- The assignments to one ledger, one after the other. -/
lemma runs_retire (hl : s.lookup key = some ledger) {orderId status : String}
    {reservation : ReservationState α} {u : Unit} :
    Runs access (retire key orderId reservation status) s u t ↔
      s.modify key (fun _ => ledger.retire orderId reservation status) = t := by
  by_cases hopen : 0 < ledger.reservedOpenOrders <;>
    simp [retire, LedgerState.retire, hl, hopen, UnorderedMap.modify_of_lookup hl]

/-- The loop of `ExpireReservations`.

**Proof sketch.** Induction on the entries that are left. The loop overwrites one ledger, from
which the next iteration reads. -/
lemma runs_expireEach {now : ℤ} {visits : List String} {u : Unit}
    (hl : s.lookup key = some ledger) :
    Runs access (expireEach key now visits) s u t ↔
      s.modify key (fun _ => visits.foldl (expireReservation now) ledger) = t := by
  induction visits generalizing s ledger with
  | nil => simp [expireEach, UnorderedMap.modify_of_lookup_self hl]
  | cons orderId visits ih =>
    simp only [List.foldl_cons, expireReservation]
    cases hr : ledger.reservations.lookup orderId with
    | none => simp [expireEach, hl, hr, ih hl]
    | some reservation =>
      by_cases hlapsed : reservation.lapsed now
      · simp [expireEach, hl, hr, hlapsed, runs_retire hl, ih]
      · simp [expireEach, hl, hr, hlapsed, ih hl]

/-- The sweep. -/
lemma runs_expireReservations {order : IterationOrder String} {now : ℤ} {u : Unit}
    (hl : s.lookup key = some ledger) :
    Runs access (expireReservations order key now) s u t ↔
      s.modify key (fun _ => AccountRisk.expireReservations order ledger now) = t := by
  simp [expireReservations, AccountRisk.expireReservations, hl, runs_expireEach hl]

/-- `ReleaseOrder`.

**Proof sketch.** By whether the ledger and the entry are there and the entry is reserved. -/
lemma runs_releaseOrder {request : ReleaseOrderRequest}
    {answer : Grpc.Status × ReleaseOrderResponse} :
    Runs (alone access) (releaseOrder request) s answer t ↔
      AccountRisk.releaseOrder request s = (answer, t) := by
  unfold releaseOrder AccountRisk.releaseOrder
  split_ifs with hids
  · simp
  · rw [runs_withLock]
    cases hl : s.lookup (accountKey request.accountId) with
    | none => simp [releaseUnderLock, hl]
    | some ledger =>
      have hsame := UnorderedMap.modify_of_lookup_self hl
      cases hr : ledger.reservations.lookup request.orderId with
      | none => simp [releaseUnderLock, releaseInLedger, hl, hr, hsame]
      | some reservation =>
        by_cases hstatus : reservation.status = "reserved"
        · simp [releaseUnderLock, releaseInLedger, hl, hr, hstatus, runs_retire hl, and_comm]
        · simp [releaseUnderLock, releaseInLedger, hl, hr, hstatus, hsame]

/-- `QueryReservation`, which reads the clock while it holds the mutex.

**Proof sketch.** The clock is read under the mutex, so the reading and the order of the sweep are
chosen there; the rest is determined by them. -/
lemma runs_queryReservation {request : GetReservationRequest}
    {answer : Grpc.Status × GetReservationResponse} :
    Runs (alone access) (queryReservation request) s answer t ↔
      ∃ now order, AccountRisk.queryReservation order now request s = (answer, t) := by
  unfold queryReservation AccountRisk.queryReservation
  split_ifs with hids
  · simp
  · rw [runs_withLock]
    cases hl : s.lookup (accountKey request.accountId) with
    | none => simp [queryUnderLock, hl]
    | some ledger =>
      simp only [queryUnderLock, queryInLedger, hl, runs_bind, runs_findLedger]
      simp [hl, runs_expireReservations hl]
      refine exists_congr fun now => exists_congr fun order => ?_
      cases (AccountRisk.expireReservations order ledger now).reservations.lookup
          request.orderId <;> simp

/-- `ListActiveReservations`, which reads the clock while it holds the mutex. -/
lemma runs_listActiveReservations {request : ListActiveReservationsRequest}
    {answer : Grpc.Status × ListActiveReservationsResponse} :
    Runs (alone access) (listActiveReservations (α := α) request) s answer t ↔
      ∃ now order, AccountRisk.listActiveReservations order now request s = (answer, t) := by
  unfold listActiveReservations AccountRisk.listActiveReservations
  rw [runs_withLock]
  cases hl : s.lookup (accountKey request.accountId) with
  | none => simp [listUnderLock, hl]
  | some ledger =>
    simp [listUnderLock, listInLedger_eq, hl, runs_expireReservations hl, runs_listEach, and_comm]
    refine exists_congr fun now => exists_congr fun order => and_congr_left fun ht => ?_
    subst ht
    simp [hl]

omit [Sub α] [LT α] [DecidableLT α] in
/-- `GetAccountRiskPolicy`. -/
lemma runs_getAccountRiskPolicy {request : GetAccountRiskPolicyRequest}
    {answer : Grpc.Status × GetAccountRiskPolicyResponse α} :
    Runs (alone access) (getAccountRiskPolicy request) s answer t ↔
      AccountRisk.getAccountRiskPolicy request s = (answer, t) := by
  unfold getAccountRiskPolicy AccountRisk.getAccountRiskPolicy
  rw [runs_withLock]
  cases hl : s.lookup (accountKey request.accountId) <;>
    simp [getPolicyUnderLock, hl, and_comm]

omit [Sub α] [LT α] [DecidableLT α] in
/-- `UpsertAccountRiskPolicy`. -/
lemma runs_upsertAccountRiskPolicy {request : UpsertAccountRiskPolicyRequest α}
    {status : Grpc.Status} :
    Runs (alone access) (upsertAccountRiskPolicy request) s status t ↔
      AccountRisk.upsertAccountRiskPolicy request s = (status, t) := by
  unfold upsertAccountRiskPolicy AccountRisk.upsertAccountRiskPolicy
  by_cases hvalid : request.policy.accountId = "" ∨ request.policy.version = 0
  · simp [hvalid]
  · simp only [hvalid, if_false]
    rw [runs_withLock]
    simp [upsertUnderLock]
    split_ifs <;> simp [and_comm]

end

section

variable [Zero α] [Add α] [Sub α] [Mul α] [NatCast α] [LT α] [DecidableLT α]
  {s t : Ledgers α}

/-- `ReserveOrder` on the ledger of its account, after the sweep.

**Proof sketch.** By the four ways in which `ReserveOrder` ends on a ledger. -/
lemma runs_reserveInLedger {key : String} {now : ℤ} {request : ReserveOrderRequest α}
    {ledger : LedgerState α} (hl : s.lookup key = some ledger) {response : ReserveOrderResponse} :
    Runs access (reserveInLedger key now request) s response t ↔
      (AccountRisk.reserveInLedger now request ledger).1 = response ∧
        s.modify key (fun _ => (AccountRisk.reserveInLedger now request ledger).2) = t := by
  have hsame := UnorderedMap.modify_of_lookup_self hl
  cases hgate : ledger.policy.gate now request.riskConfigVersion with
  | some reason => simp [reserveInLedger, AccountRisk.reserveInLedger, hl, hgate, hsame]
  | none =>
    cases hr : ledger.reservations.lookup request.intent.orderId with
    | some existing => simp [reserveInLedger, AccountRisk.reserveInLedger, hl, hgate, hr, hsame]
    | none =>
      cases hexceeded : ledger.exceeded (request.reservation now).notional
          (request.reservation now).margin with
      | some reason =>
        simp [reserveInLedger, AccountRisk.reserveInLedger, hl, hgate, hr, hexceeded, hsame]
      | none =>
        simp [reserveInLedger, AccountRisk.reserveInLedger, hl, hgate, hr, hexceeded,
          LedgerState.book, UnorderedMap.modify_of_lookup hl, and_comm]

/-- `ReserveOrder`, which reads the clock before it takes the mutex.

**Proof sketch.** The clock is read first, and changes nothing. Under the mutex the ledger is swept
in some order, and what follows is determined. -/
lemma runs_reserveOrder {request : ReserveOrderRequest α}
    {answer : Grpc.Status × ReserveOrderResponse} :
    Runs (alone access) (reserveOrder request) s answer t ↔
      ∃ now order, AccountRisk.reserveOrder order now request s = (answer, t) := by
  have hclock {now : ℤ} {u : Ledgers α} :
      Runs (alone access) (unixMillisNow.translate inner) s now u ↔ s = u :=
    (runs_translate fun _ _ _ _ => runs_inner).trans runs_unixMillisNow
  unfold reserveOrder AccountRisk.reserveOrder
  split_ifs with hids
  · simp
  · simp only [runs_bind, hclock, runs_withLock]
    cases hl : s.lookup (accountKey request.accountId) with
    | none => simp [reserveUnderLock, hl]
    | some ledger =>
      simp [reserveUnderLock, hl, runs_expireReservations hl]
      refine exists_congr fun now => exists_congr fun order => ?_
      have hswept : (s.modify (accountKey request.accountId)
          fun _ => AccountRisk.expireReservations order ledger now).lookup
          (accountKey request.accountId) =
            some (AccountRisk.expireReservations order ledger now) := by simp [hl]
      simp [runs_reserveInLedger hswept, and_comm]

omit [Add α] [Sub α] [Mul α] [NatCast α] [LT α] [DecidableLT α] [Zero α] in
/-- A reply that wraps an answer. -/
lemma exists_reply_iff {γ : Type} {wrap : γ → Reply α}
    {f : ℤ → IterationOrder String → γ × Ledgers α} {reply : Reply α} :
    (∃ answer, (∃ now order, f now order = (answer, t)) ∧ wrap answer = reply) ↔
      ∃ now order, (wrap (f now order).1, (f now order).2) = (reply, t) := by
  constructor
  · rintro ⟨answer, ⟨now, order, h⟩, rfl⟩
    exact ⟨now, order, by rw [h]⟩
  · rintro ⟨now, order, h⟩
    obtain ⟨hreply, hafter⟩ := Prod.mk.inj h
    exact ⟨_, ⟨now, order, Prod.ext rfl hafter⟩, hreply⟩

omit [Add α] [Sub α] [Mul α] [NatCast α] [LT α] [DecidableLT α] [Zero α] in
/-- A reply that wraps an answer which neither the clock nor the order of the loops decides. -/
lemma exists_reply_iff_of_const {γ : Type} {wrap : γ → Reply α} {result : γ × Ledgers α}
    {reply : Reply α} :
    (∃ answer, result = (answer, t) ∧ wrap answer = reply) ↔
      ∃ (_ : ℤ) (_ : IterationOrder String), (wrap result.1, result.2) = (reply, t) := by
  rw [← exists_reply_iff]
  simp

/-- **A handler alone.** Statement by statement, a handler does what the model of it does in one
step, at some reading of the clock and for some order of its loops; and it may do so for any.

**Proof sketch.** By cases on the request; the answers of a handler are those of its kind. -/
theorem runs_serve {request : Request α} {reply : Reply α} :
    Runs (alone access) (serve request) s reply t ↔
      ∃ now order, AccountRisk.serve ⟨request, now, order⟩ s = (reply, t) := by
  cases request with
  | reserveOrder request =>
    simp only [serve, runs_map, runs_reserveOrder]
    exact exists_reply_iff
  | queryReservation request =>
    simp only [serve, runs_map, runs_queryReservation]
    exact exists_reply_iff
  | listActiveReservations request =>
    simp only [serve, runs_map, runs_listActiveReservations]
    exact exists_reply_iff
  | releaseOrder request =>
    simp only [serve, runs_map, runs_releaseOrder]
    exact exists_reply_iff_of_const
  | getAccountRiskPolicy request =>
    simp only [serve, runs_map, runs_getAccountRiskPolicy]
    exact exists_reply_iff_of_const
  | upsertAccountRiskPolicy request =>
    simp only [serve, runs_map, runs_upsertAccountRiskPolicy]
    exact exists_reply_iff_of_const

end

end Locked

/-! ## Handlers beside each other -/

/-- The required fields of a request are set, so that its handler takes the mutex. -/
def Request.Complete : Request α → Prop
  | .reserveOrder request => ¬(request.accountId = "" ∨ request.intent.orderId = "")
  | .queryReservation request => ¬(request.accountId = "" ∨ request.orderId = "")
  | .releaseOrder request => ¬(request.accountId = "" ∨ request.orderId = "")
  | .upsertAccountRiskPolicy request =>
    ¬(request.policy.accountId = "" ∨ request.policy.version = 0)
  | .listActiveReservations _ | .getAccountRiskPolicy _ => True

/-- The clock can be read without the mutex. -/
lemma untouching_clock [Zero α] : Untouching (access (α := α)) Access.IsClock := by
  intro i hclock s answer t haccess
  cases i with
  | clock => exact ⟨haccess.symm, fun _ => rfl⟩
  | iterate | find | assign | subscript => exact hclock.elim

section

variable [Zero α] [Add α] [Sub α] [Mul α] [NatCast α] [LT α] [DecidableLT α]

/-- A handler takes the mutex once if the request is complete, and does not take it otherwise.

**Proof sketch.** By cases on the request. One that is not complete is refused before the mutex is
taken, and otherwise all statements stand in one critical section. -/
lemma follows_serve (request : Request α) :
    (Locked.serve request).Follows (discipline Access.IsClock) .before fun _ stage =>
      stage = .after ∧ request.Complete ∨ stage = .before ∧ ¬request.Complete := by
  have hlocked {β : Type} (p : Program (Access.Answer (α := α)) β) (hcomplete : request.Complete) :
      (withLock p).Follows (discipline Access.IsClock) .before fun _ stage =>
        stage = .after ∧ request.Complete ∨ stage = .before ∧ ¬request.Complete :=
    (follows_withLock p).mono fun _ _ hafter => .inl ⟨hafter, hcomplete⟩
  cases request with
  | reserveOrder request =>
    refine Follows.map ?_
    unfold Locked.reserveOrder
    split_ifs with hids
    · exact .inr ⟨rfl, not_not.mpr hids⟩
    · exact ⟨trivial, fun now => hlocked _ hids⟩
  | queryReservation request =>
    refine Follows.map ?_
    unfold Locked.queryReservation
    split_ifs with hids
    · exact .inr ⟨rfl, not_not.mpr hids⟩
    · exact hlocked _ hids
  | releaseOrder request =>
    refine Follows.map ?_
    unfold Locked.releaseOrder
    split_ifs with hids
    · exact .inr ⟨rfl, not_not.mpr hids⟩
    · exact hlocked _ hids
  | upsertAccountRiskPolicy request =>
    refine Follows.map ?_
    unfold Locked.upsertAccountRiskPolicy
    split_ifs with hvalid
    · exact .inr ⟨rfl, not_not.mpr hvalid⟩
    · exact hlocked _ hvalid
  | listActiveReservations request => exact Follows.map (hlocked _ trivial)
  | getAccountRiskPolicy request => exact Follows.map (hlocked _ trivial)

/-- A request that is not complete is refused at once, whatever the ledgers.

**Proof sketch.** By cases on the request: both models check the required fields first. -/
lemma serve_of_not_complete {request : Request α} (h : ¬request.Complete) :
    ∃ reply, Locked.serve request = .pure reply ∧
      ∀ now order gLedgers, serve ⟨request, now, order⟩ gLedgers = (reply, gLedgers) := by
  cases request with
  | reserveOrder request =>
    have hids := not_not.mp h
    refine ⟨_, by rw [Locked.serve, Locked.reserveOrder, if_pos hids]; rfl, fun _ _ _ => ?_⟩
    simp only [serve, reserveOrder, if_pos hids]
  | queryReservation request =>
    have hids := not_not.mp h
    refine ⟨_, by rw [Locked.serve, Locked.queryReservation, if_pos hids]; rfl, fun _ _ _ => ?_⟩
    simp only [serve, queryReservation, if_pos hids]
  | releaseOrder request =>
    have hids := not_not.mp h
    refine ⟨_, by rw [Locked.serve, Locked.releaseOrder, if_pos hids]; rfl, fun _ _ _ => ?_⟩
    simp only [serve, releaseOrder, if_pos hids]
  | upsertAccountRiskPolicy request =>
    have hvalid := not_not.mp h
    refine ⟨_, by rw [Locked.serve, Locked.upsertAccountRiskPolicy, if_pos hvalid]; rfl,
      fun _ _ _ => ?_⟩
    simp only [serve, upsertAccountRiskPolicy, if_pos hvalid]
  | listActiveReservations | getAccountRiskPolicy => exact absurd trivial h

/-- Clients that call the service, and the ledgers behind their mutex. -/
abbrev LockedClients (κ α : Type) :=
  Clients (Mutex.Call.Answer (Access.Answer (α := α))) (Reply α) κ (Guarded κ (Ledgers α))

/-- A step of a handler. -/
abbrev LockedEvent (κ α : Type) :=
  Event (Mutex.Call.Answer (Access.Answer (α := α))) κ (Guarded κ (Ledgers α))

/-- The clients before their handlers begin. -/
def lockedClients {κ : Type} (requests : κ → Request α) (gLedgers : Ledgers α) :
    LockedClients κ α where
  programs client := Locked.serve (requests client)
  shared := .free gLedgers

/-- The runs of the handlers beside each other. -/
abbrev LockedRun {κ : Type} [DecidableEq κ] (requests : κ → Request α) (gLedgers : Ledgers α)
    (events : List (LockedEvent κ α)) (clients : LockedClients κ α) : Prop :=
  Interleaving (environment access) (lockedClients requests gLedgers) events clients

variable {κ : Type} [DecidableEq κ] {requests : κ → Request α} {gLedgers : Ledgers α}
  {events : List (LockedEvent κ α)} {clients : LockedClients κ α}

/-- **The mutex makes the calls one sequence.** In every run of any handlers beside each other,
statement by statement, the handlers of complete requests answer as the machine answers these
requests in the order in which the mutex is released, at some readings of the clock and for some
orders of their loops; and whenever the mutex is free the ledgers are those of the machine. A
request that is not complete is answered as the machine answers it in every state.

**Proof sketch.** A handler does what the machine does when it runs alone (`Locked.runs_serve`),
and it takes the mutex once (`follows_serve`). -/
theorem locked_calls_linearize (h : LockedRun requests gLedgers events clients) :
    (∃ calls : κ → Call α, (∀ client, (calls client).request = requests client) ∧
      Linearizes service gLedgers calls (fun client _ => (requests client).Complete) Eq events
        clients (events.filter fun event => event.call.releases) ∧
      clients.shared.settled = service.final
        (requested calls (events.filter fun event => event.call.releases)) gLedgers) ∧
    (clients.shared.owner = none → clients.shared.value = clients.shared.settled) ∧
    ∀ client, ¬(requests client).Complete → ∃ reply, clients.programs client = .pure reply ∧
      ∀ now order gLedgers', serve ⟨requests client, now, order⟩ gLedgers' =
        (reply, gLedgers') := by
  refine ⟨?_, ?_, fun client hincomplete => ?_⟩
  · obtain ⟨calls, hlinearizes, hfinal, hrequests⟩ := Mutex.linearizes service
      (fun client call => call.request = requests client) Eq h rfl untouching_clock
      (fun client => follows_serve (requests client))
      (fun client => ⟨⟨requests client, 0, .stored⟩, rfl⟩)
      (fun client t reply s hruns _ => by
        obtain ⟨now, order, hserve⟩ := Locked.runs_serve.mp hruns
        exact ⟨⟨requests client, now, order⟩, rfl, congrArg Prod.fst hserve.symm,
          congrArg Prod.snd hserve⟩)
    exact ⟨calls, hrequests, hlinearizes, hfinal⟩
  · exact (keeps h rfl untouching_clock fun client => follows_serve (requests client)).1
  · obtain ⟨reply, hdone, hserve⟩ := serve_of_not_complete hincomplete
    exact ⟨reply, (h.of_done hdone).1, hserve⟩

omit [Add α] [Sub α] [Mul α] [NatCast α] [LT α] [DecidableLT α] in
/-- Every access is answered. -/
lemma answers_access : Answers (access (α := α)) := by
  intro i s
  cases i with
  | clock => exact ⟨(0 : ℤ), s, rfl⟩
  | iterate => exact ⟨IterationOrder.stored, s, rfl⟩
  | find key => exact ⟨s.lookup key, s, rfl, rfl⟩
  | assign key update => exact ⟨(), s.modify key update, rfl⟩
  | subscript key => exact ⟨(), s.emplace key .fresh, rfl⟩

/-- **The handlers do not deadlock.** From any point of any run of handlers beside each other, any
of them can all answer in the end. -/
theorem locked_calls_finish (h : LockedRun requests gLedgers events clients) (order : List κ) :
    ∃ events' clients', LockedRun requests gLedgers (events ++ events') clients' ∧
      ∀ client ∈ order, ∃ reply, clients'.programs client = .pure reply := by
  refine no_deadlock h rfl untouching_clock (fun client => follows_serve (requests client)) ?_
    answers_access order
  rintro client reply (⟨hstage, -⟩ | ⟨hstage, -⟩) <;> cases hstage

end

namespace Sample

/-- A clock that stands still, and loops in the stored order. -/
def still : Handler (Access.Answer (α := ℚ)) (Ledgers ℚ)
  | .clock, s => ((0 : ℤ), s)
  | .iterate, s => (IterationOrder.stored, s)
  | .find key, s => (s.lookup key, s)
  | .assign key update, s => ((), s.modify key update)
  | .subscript key, s => ((), s.emplace key .fresh)

/-- The answers of that clock and of these loops are possible. -/
lemma access_still (i : Access ℚ) (s : Ledgers ℚ) : access i s (still i s).1 (still i s).2 := by
  cases i with
  | find key => exact ⟨rfl, rfl⟩
  | clock | iterate | assign | subscript => rfl

/-- Two clients reserve 60 each, of a limit of 100. -/
def twoReserves (client : Fin 2) : Request ℚ :=
  .reserveOrder ⟨"acc", ⟨if client = 0 then "o1" else "o2", 10, 6, 0, 5⟩, 0, 0⟩

/-- The clients take turns. -/
def takeTurns : List (LockedEvent (Fin 2) ℚ) × LockedClients (Fin 2) ℚ :=
  scheduleReady (serveReady still) (List.replicate 40 [0, 1]).flatten
    (lockedClients twoReserves (service.final [upsert 1 true] ∅))

/-- Taking turns is a run. -/
lemma lockedRun_takeTurns :
    LockedRun twoReserves (service.final [upsert 1 true] ∅) takeTurns.1 takeTurns.2 :=
  interleaving_serveReady access_still _ _

end Sample

/-- The second of two orders is rejected, although both handlers begin before any of them ends. -/
theorem locked_calls_linearize_sample :
    (Sample.takeTurns.2.result 0).map Reply.isApproved = some true ∧
    (Sample.takeTurns.2.result 1).map Reply.isApproved = some false ∧
    ∃ calls : Fin 2 → Call ℚ, (∀ client, (calls client).request = Sample.twoReserves client) ∧
      Sample.takeTurns.2.shared.settled = service.final (requested calls
        (Sample.takeTurns.1.filter fun event => event.call.releases))
          (service.final [Sample.upsert 1 true] ∅) := by
  have hanswers : (Sample.takeTurns.2.result 0).map Reply.isApproved = some true ∧
      (Sample.takeTurns.2.result 1).map Reply.isApproved = some false := by decide +kernel
  obtain ⟨⟨calls, hrequests, -, hfinal⟩, -⟩ :=
    locked_calls_linearize Sample.lockedRun_takeTurns
  exact ⟨hanswers.1, hanswers.2, calls, hrequests, hfinal⟩

/-- Clients that have all begun can all end. -/
theorem locked_calls_finish_sample :
    ∃ events' clients', LockedRun Sample.twoReserves (service.final [Sample.upsert 1 true] ∅)
        (Sample.takeTurns.1 ++ events') clients' ∧
      ∀ client ∈ [0, 1], ∃ reply, clients'.programs client = .pure reply :=
  locked_calls_finish Sample.lockedRun_takeTurns [0, 1]

end AccountRisk
