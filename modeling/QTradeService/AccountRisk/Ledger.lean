import Mathlib.Algebra.Group.Defs
import Mathlib.Data.Nat.Cast.Defs
import QTradeService.AccountRisk.Messages
import QTradeService.Library.UnorderedMap

set_option relaxedAutoImplicit false
set_option autoImplicit false

/-!
# The in-memory ledger of the account risk service

The functions of `account_risk_grpc_service.cpp`: the global map `g_ledgers` from accounts to
ledgers, the sweep `ExpireReservations`, and the six handlers. A handler runs under the mutex
`g_ledger_mutex`, so it is a function from the map before to its answer and the map after; the
reading of the clock and the order in which it meets the entries of an `unordered_map` are
arguments.

## Main definitions

* `AccountRisk.ReservationState`, `AccountRisk.LedgerState`, `AccountRisk.Ledgers` — the state.
* `AccountRisk.expireReservations` — the sweep.
* `AccountRisk.reserveOrder`, `AccountRisk.queryReservation`, `AccountRisk.releaseOrder`,
  `AccountRisk.listActiveReservations`, `AccountRisk.getAccountRiskPolicy`,
  `AccountRisk.upsertAccountRiskPolicy` — the handlers.

## Design

Amounts are values of any type with the operations the code uses, so that a statement which
needs no law of arithmetic holds for machine floats and for exact numbers alike. The counter
`reserved_open_orders` is a natural number: it never exceeds the number of stored reservations,
which memory keeps far below `2 ^ 64`. The deadline of a reservation is a sum of two `int64`
values, taken modulo `2 ^ 64`.

What a handler does to the ledger of its account is a function of its own (`reserveInLedger`
and so on); the handler proper looks the ledger up and writes it back.
-/

namespace AccountRisk

variable {α : Type}

/-! ## Machine arithmetic -/

/-- `std::max(a, b)`. -/
def stdMax [LT α] [DecidableLT α] (a b : α) : α := if a < b then b else a

/-- An integer as an `int64`, modulo `2 ^ 64`. -/
def int64 (x : ℤ) : ℤ := x.bmod (2 ^ 64)

/-! ## The state -/

/-- The state of one reservation (`ReservationState`). The status is a free string: `reserved`,
and later `released`, `settled` or `expired`. -/
structure ReservationState (α : Type) where
  reservationId : String
  status : String := "reserved"
  notional : α
  margin : α
  expiresAtUnixMs : ℤ
  deriving DecidableEq, Repr

/-- The ledger of one account (`LedgerState`). -/
structure LedgerState (α : Type) where
  policy : AccountRiskPolicy α
  /-- The cached sum of the reserved notionals. -/
  reservedNotional : α
  /-- The cached sum of the reserved margins. -/
  reservedMargin : α
  /-- The cached number of reserved orders. -/
  reservedOpenOrders : ℕ
  reservations : UnorderedMap String (ReservationState α)
  deriving DecidableEq

/-- A ledger as `operator[]` creates it. -/
def LedgerState.fresh [Zero α] : LedgerState α where
  policy := .unset
  reservedNotional := 0
  reservedMargin := 0
  reservedOpenOrders := 0
  reservations := ∅

/-- The global map `g_ledgers` from accounts to ledgers. -/
abbrev Ledgers (α : Type) := UnorderedMap String (LedgerState α)

/-- The key of an account in `g_ledgers` (`AccountKey`). -/
def accountKey (accountId : String) : String := accountId

/-! ## Debits -/

section Debits

variable [Zero α] [Sub α] [LT α] [DecidableLT α]

/-- Give a reservation its terminal status and take it out of the cached totals: the
assignments that `ExpireReservations` and `ReleaseOrder` share. -/
def LedgerState.retire (ledger : LedgerState α) (orderId : String)
    (reservation : ReservationState α) (status : String) : LedgerState α where
  policy := ledger.policy
  reservedNotional := stdMax 0 (ledger.reservedNotional - reservation.notional)
  reservedMargin := stdMax 0 (ledger.reservedMargin - reservation.margin)
  reservedOpenOrders :=
    if ledger.reservedOpenOrders > 0 then ledger.reservedOpenOrders - 1
    else ledger.reservedOpenOrders
  reservations := ledger.reservations.modify orderId fun r => { r with status := status }

/-- Whether the sweep at `now` retires a reservation. -/
def ReservationState.lapsed (reservation : ReservationState α) (now : ℤ) : Prop :=
  reservation.status = "reserved" ∧ reservation.expiresAtUnixMs ≤ now

instance (reservation : ReservationState α) (now : ℤ) : Decidable (reservation.lapsed now) :=
  inferInstanceAs (Decidable (_ ∧ _))

/-- The body of the loop of `ExpireReservations`, for the entry at `orderId`. -/
def expireReservation (now : ℤ) (ledger : LedgerState α) (orderId : String) : LedgerState α :=
  match ledger.reservations.lookup orderId with
  | none => ledger
  | some reservation =>
    if reservation.lapsed now then ledger.retire orderId reservation "expired" else ledger

/-- Retire every reservation that has lapsed at `now` (`ExpireReservations`). -/
def expireReservations (order : IterationOrder String) (ledger : LedgerState α) (now : ℤ) :
    LedgerState α :=
  (order.visit ledger.reservations.keys).foldl (expireReservation now) ledger

end Debits

/-! ## Errors -/

/-- An `INVALID_ARGUMENT` status (`InvalidArgument`). -/
def invalidArgument (message : String) : Grpc.Status := ⟨.invalidArgument, message⟩

/-! ## ReserveOrder -/

/-- The default time to live of a reservation (milliseconds). -/
def defaultTtlMs : ℤ := 300000

/-- The gates in front of the lookup of the order: the reason of the first one that rejects. -/
def AccountRiskPolicy.gate (policy : AccountRiskPolicy α) (now : ℤ) (riskConfigVersion : ℕ) :
    Option String :=
  if policy.enabled = false ∨ policy.validUntilUnixMs > 0 ∧ now > policy.validUntilUnixMs then
    some (if policy.enabled then "ACCOUNT_RISK_POLICY_EXPIRED" else "ACCOUNT_RISK_DISABLED")
  else if riskConfigVersion ≠ 0 ∧ riskConfigVersion ≠ policy.version then
    some "RISK_POLICY_VERSION_MISMATCH"
  else
    none

section Reserve

variable [Zero α] [Add α] [Sub α] [Mul α] [NatCast α] [LT α] [DecidableLT α]

/-- The notional of an order: the estimate if it is positive, otherwise price times quantity. -/
def OrderIntent.notional (intent : OrderIntent α) : α :=
  if 0 < intent.estimatedNotional then intent.estimatedNotional
  else intent.price * (intent.quantity : α)

/-- The limit checks for a new order: the reason of the first limit that it exceeds. -/
def LedgerState.exceeded (ledger : LedgerState α) (notional margin : α) : Option String :=
  if 0 < ledger.policy.maxNotional ∧
      ledger.policy.maxNotional - ledger.policy.safetyBuffer <
        ledger.reservedNotional + notional then
    some "MAX_NOTIONAL_EXCEEDED"
  else if 0 < ledger.policy.maxMargin ∧
      ledger.policy.maxMargin - ledger.policy.safetyBuffer < ledger.reservedMargin + margin then
    some "MAX_MARGIN_EXCEEDED"
  else if 0 < ledger.policy.maxOpenOrders ∧
      ledger.policy.maxOpenOrders < ledger.reservedOpenOrders + 1 then
    some "MAX_OPEN_ORDERS_EXCEEDED"
  else
    none

/-- Store a new reservation and add it to the cached totals. -/
def LedgerState.book (ledger : LedgerState α) (orderId : String)
    (reservation : ReservationState α) : LedgerState α where
  policy := ledger.policy
  reservedNotional := ledger.reservedNotional + reservation.notional
  reservedMargin := ledger.reservedMargin + reservation.margin
  reservedOpenOrders := ledger.reservedOpenOrders + 1
  reservations := ledger.reservations.emplace orderId reservation

/-- The reservation that a request for a new order asks for at `now`. -/
def ReserveOrderRequest.reservation (request : ReserveOrderRequest α) (now : ℤ) :
    ReservationState α where
  reservationId := "RSV-" ++ request.intent.orderId
  notional := request.intent.notional
  margin := request.intent.estimatedMargin
  expiresAtUnixMs :=
    int64 (now + if 0 < request.reservationTtlMs then request.reservationTtlMs else defaultTtlMs)

/-- `ReserveOrder` on the ledger of its account, after the sweep. -/
def reserveInLedger (now : ℤ) (request : ReserveOrderRequest α) (ledger : LedgerState α) :
    ReserveOrderResponse × LedgerState α :=
  let response : ReserveOrderResponse := { policyVersion := ledger.policy.version }
  let orderId := request.intent.orderId
  match ledger.policy.gate now request.riskConfigVersion with
  | some reason => ({ response with decision := .rejected, rejectReason := reason }, ledger)
  | none =>
    match ledger.reservations.lookup orderId with
    | some existing =>
      ({ response with
          decision := if existing.status = "reserved" then .approved else .rejected
          rejectReason := if existing.status ≠ "reserved" then "ORDER_ID_ALREADY_TERMINAL" else ""
          reservationId := existing.reservationId
          expiresAtUnixMs := existing.expiresAtUnixMs }, ledger)
    | none =>
      let reservation := request.reservation now
      match ledger.exceeded reservation.notional reservation.margin with
      | some reason => ({ response with decision := .rejected, rejectReason := reason }, ledger)
      | none =>
        ({ response with
            decision := .approved
            reservationId := reservation.reservationId
            expiresAtUnixMs := reservation.expiresAtUnixMs }, ledger.book orderId reservation)

/-- The handler `ReserveOrder`. -/
def reserveOrder (order : IterationOrder String) (now : ℤ) (request : ReserveOrderRequest α)
    (gLedgers : Ledgers α) : (Grpc.Status × ReserveOrderResponse) × Ledgers α :=
  if request.accountId = "" ∨ request.intent.orderId = "" then
    ((invalidArgument "account_id and intent.order_id are required", {}), gLedgers)
  else
    let key := accountKey request.accountId
    match gLedgers.lookup key with
    | none =>
      ((.OK, { decision := .rejected, rejectReason := "ACCOUNT_RISK_POLICY_NOT_FOUND" }), gLedgers)
    | some ledger =>
      let (response, ledger') := reserveInLedger now request (expireReservations order ledger now)
      ((.OK, response), gLedgers.modify key fun _ => ledger')

end Reserve

/-! ## The other handlers -/

section Handlers

variable [Zero α] [Sub α] [LT α] [DecidableLT α]

/-- A stored reservation as clients see it. -/
def ReservationState.view (state : ReservationState α) (orderId : String) : Reservation where
  orderId := orderId
  reservationId := state.reservationId
  status := state.status
  expiresAtUnixMs := state.expiresAtUnixMs

/-- `QueryReservation` on the ledger of its account, after the sweep. -/
def queryInLedger (request : GetReservationRequest) (ledger : LedgerState α) :
    Grpc.Status × GetReservationResponse :=
  match ledger.reservations.lookup request.orderId with
  | none => (⟨.notFound, "reservation not found"⟩, {})
  | some state => (.OK, { reservation := some (state.view request.orderId) })

/-- The handler `QueryReservation`. -/
def queryReservation (order : IterationOrder String) (now : ℤ) (request : GetReservationRequest)
    (gLedgers : Ledgers α) : (Grpc.Status × GetReservationResponse) × Ledgers α :=
  if request.accountId = "" ∨ request.orderId = "" then
    ((invalidArgument "account_id and order_id are required", {}), gLedgers)
  else
    let key := accountKey request.accountId
    match gLedgers.lookup key with
    | none => ((⟨.notFound, "account risk ledger not found"⟩, {}), gLedgers)
    | some ledger =>
      let ledger' := expireReservations order ledger now
      (queryInLedger request ledger', gLedgers.modify key fun _ => ledger')

/-- The status that a released reservation takes. -/
def ReleaseReason.label (reason : ReleaseReason) : String :=
  if reason = .settled then "settled" else "released"

/-- `ReleaseOrder` on the ledger of its account. No entry counts as released. -/
def releaseInLedger (request : ReleaseOrderRequest) (ledger : LedgerState α) :
    ReleaseOrderResponse × LedgerState α :=
  match ledger.reservations.lookup request.orderId with
  | none => ({ released := true }, ledger)
  | some reservation =>
    ({ released := true },
      if reservation.status = "reserved" then
        ledger.retire request.orderId reservation request.reason.label
      else ledger)

/-- The handler `ReleaseOrder`, which neither reads the clock nor sweeps. -/
def releaseOrder (request : ReleaseOrderRequest) (gLedgers : Ledgers α) :
    (Grpc.Status × ReleaseOrderResponse) × Ledgers α :=
  if request.accountId = "" ∨ request.orderId = "" then
    ((invalidArgument "account_id and order_id are required", {}), gLedgers)
  else
    let key := accountKey request.accountId
    match gLedgers.lookup key with
    | none =>
      ((.OK, { released := false, rejectReason := "ACCOUNT_RISK_POLICY_NOT_FOUND" }), gLedgers)
    | some ledger =>
      let (response, ledger') := releaseInLedger request ledger
      ((.OK, response), gLedgers.modify key fun _ => ledger')

/-- `ListActiveReservations` on the ledger of its account, after the sweep. -/
def listInLedger (order : IterationOrder String) (ledger : LedgerState α) :
    ListActiveReservationsResponse where
  reservations := (order.visit ledger.reservations.keys).filterMap fun orderId =>
    match ledger.reservations.lookup orderId with
    | none => none
    | some state => if state.status ≠ "reserved" then none else some (state.view orderId)

/-- The handler `ListActiveReservations`. -/
def listActiveReservations (order : IterationOrder String) (now : ℤ)
    (request : ListActiveReservationsRequest) (gLedgers : Ledgers α) :
    (Grpc.Status × ListActiveReservationsResponse) × Ledgers α :=
  let key := accountKey request.accountId
  match gLedgers.lookup key with
  | none => ((.OK, {}), gLedgers)
  | some ledger =>
    let ledger' := expireReservations order ledger now
    ((.OK, listInLedger order ledger'), gLedgers.modify key fun _ => ledger')

/-- The handler `GetAccountRiskPolicy`. -/
def getAccountRiskPolicy (request : GetAccountRiskPolicyRequest) (gLedgers : Ledgers α) :
    (Grpc.Status × GetAccountRiskPolicyResponse α) × Ledgers α :=
  match gLedgers.lookup (accountKey request.accountId) with
  | none => ((⟨.notFound, "account risk policy not found"⟩, {}), gLedgers)
  | some ledger => ((.OK, { policy := some ledger.policy }), gLedgers)

/-- The handler `UpsertAccountRiskPolicy`. The ledger is created, if there is none, before the
version is checked. -/
def upsertAccountRiskPolicy (request : UpsertAccountRiskPolicyRequest α) (gLedgers : Ledgers α) :
    Grpc.Status × Ledgers α :=
  let policy := request.policy
  if policy.accountId = "" ∨ policy.version = 0 then
    (invalidArgument "account_id and non-zero version are required", gLedgers)
  else
    let key := accountKey policy.accountId
    let gLedgers := gLedgers.emplace key .fresh
    let ledger := (gLedgers.lookup key).getD .fresh
    if ledger.policy.version > policy.version then
      (⟨.failedPrecondition, "risk policy version cannot decrease"⟩, gLedgers)
    else
      (.OK, gLedgers.modify key fun ledger => { ledger with policy := policy })

end Handlers

end AccountRisk
