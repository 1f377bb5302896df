import Mathlib.Data.Int.Notation
import Mathlib.Data.Nat.Notation
import QTradeService.Grpc.Status

set_option relaxedAutoImplicit false
set_option autoImplicit false

/-!
# The messages of the account risk service

The protobuf messages of `account_risk/v1/account_risk.proto`, with the fields that the service
reads, stores or fills. Amounts (`double` in the proto) have a type `α` of their own: the
handlers only add, subtract, multiply and compare them. A `uint64` is a natural number and an
`int64` an integer.

## Main definitions

* `AccountRisk.AccountRiskPolicy`, `AccountRisk.OrderIntent` — the policy of an account, the
  order to be reserved.
* `AccountRisk.ReserveOrderRequest`, `AccountRisk.ReserveOrderResponse` and so on — the requests
  and responses of the six calls.
-/

namespace AccountRisk

/-! ## Policies and intents -/

/-- The hard risk policy of an account (`AccountRiskPolicy`). -/
structure AccountRiskPolicy (α : Type) where
  accountId : String
  /-- The version of the policy; an engine may pin it when it reserves. -/
  version : ℕ
  /-- When the policy lapses (Unix milliseconds); `0` means never. -/
  validUntilUnixMs : ℤ
  /-- The limit on the reserved notional; `0` means no limit. -/
  maxNotional : α
  /-- The limit on the reserved margin; `0` means no limit. -/
  maxMargin : α
  /-- The limit on the gross exposure; the service stores it and never checks it. -/
  maxGrossExposure : α
  /-- The limit on the number of open orders; `0` means no limit. -/
  maxOpenOrders : ℕ
  /-- The part of the notional and margin limits that is kept free. -/
  safetyBuffer : α
  enabled : Bool
  deriving DecidableEq, Repr

/-- The policy message with no field set. -/
def AccountRiskPolicy.unset {α : Type} [Zero α] : AccountRiskPolicy α where
  accountId := ""
  version := 0
  validUntilUnixMs := 0
  maxNotional := 0
  maxMargin := 0
  maxGrossExposure := 0
  maxOpenOrders := 0
  safetyBuffer := 0
  enabled := false

/-- The order for which quota is requested (`OrderIntent`). -/
structure OrderIntent (α : Type) where
  orderId : String
  price : α
  quantity : ℕ
  /-- The estimated notional; `0` lets the service derive it. -/
  estimatedNotional : α
  estimatedMargin : α
  deriving DecidableEq, Repr

/-! ## Requests -/

/-- A request for quota (`ReserveOrderRequest`). -/
structure ReserveOrderRequest (α : Type) where
  accountId : String
  intent : OrderIntent α
  /-- The policy version the engine holds; `0` means any. -/
  riskConfigVersion : ℕ
  /-- How long the reservation lives (milliseconds); the default is used unless positive. -/
  reservationTtlMs : ℤ
  deriving DecidableEq, Repr

/-- A question about the reservation of one order (`GetReservationRequest`). -/
structure GetReservationRequest where
  accountId : String
  orderId : String
  deriving DecidableEq, Repr

/-- Why an order is released (`ReleaseOrderRequest.Reason`). -/
inductive ReleaseReason
  | unspecified
  | emsEnqueueFailed
  | rejectedByVenue
  | canceled
  | settled
  | expired
  deriving DecidableEq, Repr

/-- A request to give quota back (`ReleaseOrderRequest`). -/
structure ReleaseOrderRequest where
  accountId : String
  orderId : String
  reason : ReleaseReason
  deriving DecidableEq, Repr

/-- A question about all active reservations (`ListActiveReservationsRequest`). -/
structure ListActiveReservationsRequest where
  accountId : String
  deriving DecidableEq, Repr

/-- A question about the stored policy (`GetAccountRiskPolicyRequest`). -/
structure GetAccountRiskPolicyRequest where
  accountId : String
  deriving DecidableEq, Repr

/-- A request to store a policy (`UpsertAccountRiskPolicyRequest`). -/
structure UpsertAccountRiskPolicyRequest (α : Type) where
  policy : AccountRiskPolicy α
  deriving DecidableEq, Repr

/-! ## Responses -/

/-- The verdict on a reservation (`ReserveOrderResponse.Decision`). -/
inductive Decision
  | unspecified
  | approved
  | rejected
  | unknown
  deriving DecidableEq, Repr

/-- The answer to `ReserveOrder` (`ReserveOrderResponse`). -/
structure ReserveOrderResponse where
  decision : Decision := .unspecified
  rejectReason : String := ""
  policyVersion : ℕ := 0
  reservationId : String := ""
  expiresAtUnixMs : ℤ := 0
  deriving DecidableEq, Repr

/-- A reservation as clients see it (`Reservation`). -/
structure Reservation where
  orderId : String
  reservationId : String
  status : String
  expiresAtUnixMs : ℤ
  deriving DecidableEq, Repr

/-- The answer to `QueryReservation` (`GetReservationResponse`). -/
structure GetReservationResponse where
  reservation : Option Reservation := none
  deriving DecidableEq, Repr

/-- The answer to `ReleaseOrder` (`ReleaseOrderResponse`). -/
structure ReleaseOrderResponse where
  /-- Whether the order holds no quota any more. -/
  released : Bool := false
  rejectReason : String := ""
  deriving DecidableEq, Repr

/-- The answer to `ListActiveReservations` (`ListActiveReservationsResponse`). -/
structure ListActiveReservationsResponse where
  reservations : List Reservation := []
  deriving DecidableEq, Repr

/-- The answer to `GetAccountRiskPolicy` (`GetAccountRiskPolicyResponse`). -/
structure GetAccountRiskPolicyResponse (α : Type) where
  policy : Option (AccountRiskPolicy α) := none
  deriving DecidableEq, Repr

end AccountRisk
