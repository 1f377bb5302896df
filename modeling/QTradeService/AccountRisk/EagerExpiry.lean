import QTradeService.AccountRisk.Conservation

set_option relaxedAutoImplicit false
set_option autoImplicit false

/-!
# Lazy expiry refines eager expiry

The service expires a reservation when a sweep happens to meet it: three of the six calls sweep,
the others see reservations that lapsed long ago and are still labelled `reserved`. The file
compares it with a reference service that has no sweep and no cached totals. There a
reservation is active as long as its deadline lies ahead and nobody released it, and every
decision sums over the active ones. With clocks that do not go back, clients cannot tell the two
apart but by the terminal label of an inactive reservation.

## Main definitions

* `AccountRisk.EagerLedger`, `AccountRisk.eagerService` — the reference.
* `AccountRisk.SameAnswer` — what clients can tell apart.
* `AccountRisk.LedgerState.Simulates` — the simulation relation.

## Main results

* `AccountRisk.lazyExpiry` — one call keeps the relation and is answered alike.
* `AccountRisk.lazy_expiry_refines_eager_expiry` — so is every run.

## Design

The relation tolerates reservations that lapsed and have not been swept: they are `reserved` in
the ledger and not released in the reference. A reservation with a terminal label is released in
the reference or past its deadline, and stays so since the clock does not go back.
-/

namespace AccountRisk

/-! ## The reference -/

/-- A reservation of the reference. -/
structure EagerReservation where
  reservationId : String
  notional : ℚ
  margin : ℚ
  expiresAtUnixMs : ℤ
  /-- Whether it was released while it was active. -/
  released : Bool

/-- Whether a reservation of the reference is active at `now`. -/
def EagerReservation.activeAt (reservation : EagerReservation) (now : ℤ) : Bool :=
  !reservation.released && decide (now < reservation.expiresAtUnixMs)

lemma EagerReservation.activeAt_iff {q : EagerReservation} {now : ℤ} :
    q.activeAt now = true ↔ q.released = false ∧ now < q.expiresAtUnixMs := by
  rw [activeAt, Bool.and_eq_true, Bool.not_eq_true', decide_eq_true_eq]

/-- A reservation of the reference as clients see it at `now`. -/
def EagerReservation.view (reservation : EagerReservation) (orderId : String) (now : ℤ) :
    Reservation where
  orderId := orderId
  reservationId := reservation.reservationId
  status := if reservation.activeAt now then "reserved" else "inactive"
  expiresAtUnixMs := reservation.expiresAtUnixMs

/-- A ledger of the reference: the policy and the reservations, no totals. -/
structure EagerLedger where
  policy : AccountRiskPolicy ℚ
  reservations : UnorderedMap String EagerReservation

/-- The entries that are active at `now`. -/
def EagerLedger.active (ledger : EagerLedger) (now : ℤ) : List (Σ _ : String, EagerReservation) :=
  ledger.reservations.entries.filter fun e => e.2.activeAt now

/-- The limit checks of the reference, on the sums over the active reservations. -/
def EagerLedger.exceeded (ledger : EagerLedger) (now : ℤ) (notional margin : ℚ) : Option String :=
  if 0 < ledger.policy.maxNotional ∧ ledger.policy.maxNotional - ledger.policy.safetyBuffer <
      ((ledger.active now).map fun e => e.2.notional).sum + notional then
    some "MAX_NOTIONAL_EXCEEDED"
  else if 0 < ledger.policy.maxMargin ∧ ledger.policy.maxMargin - ledger.policy.safetyBuffer <
      ((ledger.active now).map fun e => e.2.margin).sum + margin then
    some "MAX_MARGIN_EXCEEDED"
  else if 0 < ledger.policy.maxOpenOrders ∧
      ledger.policy.maxOpenOrders < (ledger.active now).length + 1 then
    some "MAX_OPEN_ORDERS_EXCEEDED"
  else
    none

/-- Why the reference rejects an order before it looks for an entry: the policy is switched off,
its time is over, or another version was asked for. -/
def AccountRiskPolicy.refusal (policy : AccountRiskPolicy ℚ) (now : ℤ) (wantedVersion : ℕ) :
    Option String :=
  if !policy.enabled then
    some "ACCOUNT_RISK_DISABLED"
  else if 0 < policy.validUntilUnixMs ∧ policy.validUntilUnixMs < now then
    some "ACCOUNT_RISK_POLICY_EXPIRED"
  else if wantedVersion = 0 ∨ wantedVersion = policy.version then
    none
  else
    some "RISK_POLICY_VERSION_MISMATCH"

/-- The reservation that the reference stores for a new order. It lives for the time that the
request asks for, and for five minutes if it asks for none. -/
def ReserveOrderRequest.eagerReservation (request : ReserveOrderRequest ℚ) (now : ℤ) :
    EagerReservation where
  reservationId := "RSV-" ++ request.intent.orderId
  notional :=
    if 0 < request.intent.estimatedNotional then request.intent.estimatedNotional
    else request.intent.price * request.intent.quantity
  margin := request.intent.estimatedMargin
  expiresAtUnixMs :=
    int64 (if 0 < request.reservationTtlMs then now + request.reservationTtlMs
      else now + 5 * 60 * 1000)
  released := false

/-- `ReserveOrder` of the reference. -/
def EagerLedger.reserve (now : ℤ) (request : ReserveOrderRequest ℚ) (ledger : EagerLedger) :
    ReserveOrderResponse × EagerLedger :=
  let response : ReserveOrderResponse := { policyVersion := ledger.policy.version }
  let orderId := request.intent.orderId
  match ledger.policy.refusal now request.riskConfigVersion with
  | some reason => ({ response with decision := .rejected, rejectReason := reason }, ledger)
  | none =>
    match ledger.reservations.lookup orderId with
    | some existing =>
      ({ response with
          decision := if existing.activeAt now then .approved else .rejected
          rejectReason := if existing.activeAt now then "" else "ORDER_ID_ALREADY_TERMINAL"
          reservationId := existing.reservationId
          expiresAtUnixMs := existing.expiresAtUnixMs }, ledger)
    | none =>
      let reservation := request.eagerReservation now
      match ledger.exceeded now reservation.notional reservation.margin with
      | some reason => ({ response with decision := .rejected, rejectReason := reason }, ledger)
      | none =>
        ({ response with
            decision := .approved
            reservationId := reservation.reservationId
            expiresAtUnixMs := reservation.expiresAtUnixMs },
          { ledger with reservations := ledger.reservations.insert orderId reservation })

/-- `ReleaseOrder` of the reference: it marks the reservation of the order if that is active. -/
def EagerLedger.release (now : ℤ) (orderId : String) (ledger : EagerLedger) : EagerLedger where
  policy := ledger.policy
  reservations := ledger.reservations.modify orderId fun reservation =>
    if reservation.activeAt now then { reservation with released := true } else reservation

/-- A call of the reference, on the ledger of the account that it names. -/
def eagerServe (call : Call ℚ) (entry : Option EagerLedger) : Reply ℚ × Option EagerLedger :=
  match call.request with
  | .reserveOrder request =>
    if request.accountId = "" ∨ request.intent.orderId = "" then
      (.reserveOrder (invalidArgument "account_id and intent.order_id are required") {}, entry)
    else
      match entry with
      | none =>
        (.reserveOrder .OK
          { decision := .rejected, rejectReason := "ACCOUNT_RISK_POLICY_NOT_FOUND" }, none)
      | some ledger =>
        let (response, ledger') := ledger.reserve call.now request
        (.reserveOrder .OK response, some ledger')
  | .queryReservation request =>
    if request.accountId = "" ∨ request.orderId = "" then
      (.queryReservation (invalidArgument "account_id and order_id are required") {}, entry)
    else
      match entry with
      | none => (.queryReservation ⟨.notFound, "account risk ledger not found"⟩ {}, none)
      | some ledger =>
        match ledger.reservations.lookup request.orderId with
        | none => (.queryReservation ⟨.notFound, "reservation not found"⟩ {}, some ledger)
        | some reservation =>
          (.queryReservation .OK
            { reservation := some (reservation.view request.orderId call.now) }, some ledger)
  | .releaseOrder request =>
    if request.accountId = "" ∨ request.orderId = "" then
      (.releaseOrder (invalidArgument "account_id and order_id are required") {}, entry)
    else
      match entry with
      | none =>
        (.releaseOrder .OK
          { released := false, rejectReason := "ACCOUNT_RISK_POLICY_NOT_FOUND" }, none)
      | some ledger =>
        (.releaseOrder .OK { released := true }, some (ledger.release call.now request.orderId))
  | .listActiveReservations _ =>
    match entry with
    | none => (.listActiveReservations .OK {}, none)
    | some ledger =>
      (.listActiveReservations .OK
        { reservations := (ledger.active call.now).map fun e => e.2.view e.1 call.now },
        some ledger)
  | .getAccountRiskPolicy _ =>
    match entry with
    | none => (.getAccountRiskPolicy ⟨.notFound, "account risk policy not found"⟩ {}, none)
    | some ledger => (.getAccountRiskPolicy .OK { policy := some ledger.policy }, some ledger)
  | .upsertAccountRiskPolicy request =>
    if request.policy.accountId = "" ∨ request.policy.version = 0 then
      (.upsertAccountRiskPolicy
        (invalidArgument "account_id and non-zero version are required"), entry)
    else
      match entry with
      | none => (.upsertAccountRiskPolicy .OK, some ⟨request.policy, ∅⟩)
      | some ledger =>
        if ledger.policy.version > request.policy.version then
          (.upsertAccountRiskPolicy
            ⟨.failedPrecondition, "risk policy version cannot decrease"⟩, some ledger)
        else
          (.upsertAccountRiskPolicy .OK, some { ledger with policy := request.policy })

/-- The reference as a machine: every account has its own entry. -/
def eagerService : Machine (String → Option EagerLedger) (Call ℚ) (Reply ℚ) where
  step call ledgers :=
    let (reply, entry) := eagerServe call (ledgers call.account)
    (reply, Function.update ledgers call.account entry)

/-! ## What clients can tell apart -/

/-- Two views of one reservation that differ at most in the label of an inactive one. -/
structure Reservation.Same (x y : Reservation) : Prop where
  orderId : x.orderId = y.orderId
  reservationId : x.reservationId = y.reservationId
  expiresAtUnixMs : x.expiresAtUnixMs = y.expiresAtUnixMs
  reserved : x.status = "reserved" ↔ y.status = "reserved"

/-- Two answers that differ at most in the terminal label of a queried reservation and in the
order of a list. -/
def SameAnswer : Reply ℚ → Reply ℚ → Prop
  | .reserveOrder status response, .reserveOrder status' response' =>
    status = status' ∧ response = response'
  | .queryReservation status response, .queryReservation status' response' =>
    status = status' ∧ Option.Rel Reservation.Same response.reservation response'.reservation
  | .releaseOrder status response, .releaseOrder status' response' =>
    status = status' ∧ response = response'
  | .listActiveReservations status response, .listActiveReservations status' response' =>
    status = status' ∧ response.reservations.Perm response'.reservations
  | .getAccountRiskPolicy status response, .getAccountRiskPolicy status' response' =>
    status = status' ∧ response = response'
  | .upsertAccountRiskPolicy status, .upsertAccountRiskPolicy status' => status = status'
  | _, _ => False

/-! ## The simulation relation -/

/-- A reservation and its counterpart in the reference at the time `t`. -/
structure ReservationState.Mirrors (t : ℤ) (r : ReservationState ℚ) (q : EagerReservation) :
    Prop where
  reservationId : r.reservationId = q.reservationId
  notional : r.notional = q.notional
  margin : r.margin = q.margin
  expiresAtUnixMs : r.expiresAtUnixMs = q.expiresAtUnixMs
  /-- A reserved one has not been released; its deadline may have passed. -/
  reserved : r.status = "reserved" → q.released = false
  /-- A terminal one was released or has passed its deadline. -/
  terminal : r.status ≠ "reserved" → q.released = true ∨ q.expiresAtUnixMs ≤ t

/-- A counterpart at the time `now`, and the label tells whether the reservation is active. -/
def ReservationState.Swept (now : ℤ) (r : ReservationState ℚ) (q : EagerReservation) : Prop :=
  r.Mirrors now q ∧ (r.status = "reserved" ↔ q.activeAt now = true)

/-- A ledger and its counterpart in the reference at the time `t`. -/
structure LedgerState.Mirrors (t : ℤ) (l : LedgerState ℚ) (e : EagerLedger) : Prop where
  policy : l.policy = e.policy
  reservations : UnorderedMap.Related (ReservationState.Mirrors t) l.reservations e.reservations
  conserved : l.Conserved

/-- A swept ledger and its counterpart in the reference. -/
structure LedgerState.Swept (now : ℤ) (l : LedgerState ℚ) (e : EagerLedger) : Prop where
  policy : l.policy = e.policy
  reservations : UnorderedMap.Related (ReservationState.Swept now) l.reservations e.reservations
  conserved : l.Conserved

/-- Time passes. -/
lemma ReservationState.Mirrors.mono {t now : ℤ} (ht : t ≤ now) {r : ReservationState ℚ}
    {q : EagerReservation} (h : r.Mirrors t q) : r.Mirrors now q := by
  refine { h with terminal := fun hr => ?_ }
  rcases h.terminal hr with hq | hq
  · exact .inl hq
  · exact .inr (hq.trans ht)

/-- Time passes. -/
lemma LedgerState.Mirrors.mono {t now : ℤ} (ht : t ≤ now) {l : LedgerState ℚ} {e : EagerLedger}
    (h : l.Mirrors t e) : l.Mirrors now e :=
  { h with reservations := h.reservations.mono fun _ _ hrq => hrq.mono ht }

/-- A swept ledger mirrors its counterpart. -/
lemma LedgerState.Swept.mirrors {now : ℤ} {l : LedgerState ℚ} {e : EagerLedger}
    (h : l.Swept now e) : l.Mirrors now e :=
  { h with reservations := h.reservations.mono fun _ _ hrq => hrq.1 }

/-- A reservation is active in the ledger if and only if it is in the reference.

**Proof sketch.** A reserved one has not been released in the reference, so that the deadline
decides on both sides; a terminal one is not active there. -/
lemma ReservationState.Mirrors.activeAt_iff {t now : ℤ} (ht : t ≤ now) {r : ReservationState ℚ}
    {q : EagerReservation} (h : r.Mirrors t q) : r.activeAt now ↔ q.activeAt now = true := by
  rw [EagerReservation.activeAt_iff, ReservationState.activeAt, h.expiresAtUnixMs]
  constructor
  · rintro ⟨hr, hlt⟩
    exact ⟨h.reserved hr, hlt⟩
  · rintro ⟨hq, hlt⟩
    refine ⟨?_, hlt⟩
    by_contra hr
    rcases h.terminal hr with hq' | hle
    · rw [hq] at hq'
      cases hq'
    · omega

/-- The sweep settles which reservations are active: a reserved one is kept exactly if its
deadline lies ahead, and a terminal one is not active, now or later. -/
lemma ReservationState.Mirrors.expire {t now : ℤ} (ht : t ≤ now) {r : ReservationState ℚ}
    {q : EagerReservation} (h : r.Mirrors t q) : (r.expire now).Swept now q := by
  have hactive : (r.expire now).status = "reserved" ↔ q.activeAt now = true := by
    rw [ReservationState.status_expire]
    exact h.activeAt_iff ht
  refine ⟨⟨?_, ?_, ?_, ?_, fun hr => ?_, fun hr => ?_⟩, hactive⟩
  · rw [reservationId_expire, h.reservationId]
  · rw [notional_expire, h.notional]
  · rw [margin_expire, h.margin]
  · rw [expiresAtUnixMs_expire, h.expiresAtUnixMs]
  · exact h.reserved (ReservationState.status_expire.mp hr).1
  · have hq : ¬q.activeAt now = true := fun hq => hr (hactive.mpr hq)
    rwa [EagerReservation.activeAt_iff, not_and_or, Bool.not_eq_false, not_lt] at hq

/-- The sweep at `now` of a ledger that mirrors `e`. -/
lemma LedgerState.Mirrors.sweep {t now : ℤ} (ht : t ≤ now) {l : LedgerState ℚ} {e : EagerLedger}
    (h : l.Mirrors t e) (order : IterationOrder String) :
    (expireReservations order l now).Swept now e where
  policy := (policy_expireReservations order l now).trans h.policy
  reservations := by
    rw [reservations_expireReservations]
    exact h.reservations.mapEntries_left fun _ _ hrq => hrq.expire ht
  conserved := h.conserved.expireReservations order now

/-- The amounts of a swept ledger are those of the ledger. -/
lemma nonneg_expireReservations {l : LedgerState ℚ} (h : l.Nonneg)
    (order : IterationOrder String) (now : ℤ) : (expireReservations order l now).Nonneg := by
  intro orderId r hr
  rw [lookup_expireReservations, Option.map_eq_some_iff] at hr
  obtain ⟨s, hs, rfl⟩ := hr
  rw [ReservationState.notional_expire, ReservationState.margin_expire]
  exact h orderId s hs

/-! ## Decisions -/

/-- What is read off the reserved reservations of a swept ledger is read off the active ones of
the reference. -/
lemma LedgerState.Swept.map_reserved {now : ℤ} {l : LedgerState ℚ} {e : EagerLedger}
    (h : l.Swept now e) {τ : Type} (f : ReservationState ℚ → τ) (g : EagerReservation → τ)
    (hfg : ∀ r q, ReservationState.Swept now r q → f r = g q) :
    l.reserved.map f = (e.active now).map fun x => g x.2 := by
  rw [LedgerState.reserved, List.filter_map, List.map_map]
  refine h.reservations.map_filter_eq (p := fun _ r => decide (r.status = "reserved"))
    (q := fun _ q => q.activeAt now) (f := fun _ r => f r) (g := fun _ q => g q)
    (fun _ r q hrq => ?_) fun _ r q hrq _ => hfg r q hrq
  rw [Bool.eq_iff_iff, decide_eq_true_eq]
  exact hrq.2

/-- On a swept ledger without negative amounts the limit checks agree with the reference. -/
lemma LedgerState.Swept.exceeded_eq {now : ℤ} {l : LedgerState ℚ} {e : EagerLedger}
    (h : l.Swept now e) (hnonneg : l.Nonneg) (notional margin : ℚ) :
    l.exceeded notional margin = e.exceeded now notional margin := by
  obtain ⟨hnotional, hmargin⟩ := h.conserved.sums hnonneg
  have hcount : l.reservedOpenOrders = (e.active now).length := by
    rw [h.conserved.counts, ← List.length_map (f := fun _ => ()),
      h.map_reserved (fun _ => ()) (fun _ => ()) fun _ _ _ => rfl, List.length_map]
  rw [h.map_reserved _ (fun q => q.notional) fun _ _ hrq => hrq.1.notional] at hnotional
  rw [h.map_reserved _ (fun q => q.margin) fun _ _ hrq => hrq.1.margin] at hmargin
  rw [LedgerState.exceeded, EagerLedger.exceeded, h.policy, hnotional, hmargin, hcount]

/-- The gates of the service are those of the reference. -/
lemma AccountRiskPolicy.gate_eq (policy : AccountRiskPolicy ℚ) (now : ℤ) (wantedVersion : ℕ) :
    policy.gate now wantedVersion = policy.refusal now wantedVersion := by
  unfold gate refusal
  cases policy.enabled with
  | false => simp
  | true =>
    by_cases hvalid : 0 < policy.validUntilUnixMs ∧ policy.validUntilUnixMs < now
    · simp [hvalid]
    · by_cases hversion : wantedVersion = 0 ∨ wantedVersion = policy.version
      · simp [hvalid, hversion]
        omega
      · simp [hvalid, hversion]
        omega

/-- The reservation of a new order mirrors the one of the reference. -/
lemma ReserveOrderRequest.reservation_mirrors (request : ReserveOrderRequest ℚ) (now : ℤ) :
    (request.reservation now).Mirrors now (request.eagerReservation now) where
  reservationId := rfl
  notional := rfl
  margin := rfl
  expiresAtUnixMs := by
    unfold reservation eagerReservation defaultTtlMs
    simp only
    split_ifs <;> rfl
  reserved _ := rfl
  terminal hr := absurd rfl hr

/-- A new order is booked on both sides. -/
lemma LedgerState.Mirrors.book {now : ℤ} {l : LedgerState ℚ} {e : EagerLedger}
    (h : l.Mirrors now e) {orderId : String} (hl : l.reservations.lookup orderId = none)
    (request : ReserveOrderRequest ℚ) :
    (l.book orderId (request.reservation now)).Mirrors now
      { e with reservations := e.reservations.insert orderId (request.eagerReservation now) } where
  policy := h.policy
  reservations := by
    have hnew : orderId ∉ l.reservations := AList.lookup_eq_none.mp hl
    rw [LedgerState.book, UnorderedMap.emplace_of_notMem hnew]
    exact h.reservations.insert hnew (request.reservation_mirrors now)
  conserved := h.conserved.book hl rfl

/-- On a swept ledger without negative amounts `ReserveOrder` answers like the reference.

**Proof sketch.** The gates agree. A known order is reserved if and only if it is active in the
reference, and for a new one the limits agree, since the cached totals are the sums over the active
reservations. -/
lemma LedgerState.Swept.reserve {now : ℤ} {l : LedgerState ℚ} {e : EagerLedger}
    (h : l.Swept now e) (hnonneg : l.Nonneg) (request : ReserveOrderRequest ℚ) :
    (reserveInLedger now request l).1 = (e.reserve now request).1 ∧
      (reserveInLedger now request l).2.Mirrors now (e.reserve now request).2 := by
  simp only [reserveInLedger, EagerLedger.reserve, h.policy, AccountRiskPolicy.gate_eq]
  cases hgate : e.policy.refusal now request.riskConfigVersion with
  | some reason => exact ⟨rfl, h.mirrors⟩
  | none =>
    have hlookup := h.reservations.lookup request.intent.orderId
    cases hl : l.reservations.lookup request.intent.orderId with
    | some r =>
      cases he : e.reservations.lookup request.intent.orderId with
      | none => simp [hl, he] at hlookup
      | some q =>
        obtain ⟨hrq, hactive⟩ : ReservationState.Swept now r q := by simpa [hl, he] using hlookup
        refine ⟨?_, h.mirrors⟩
        by_cases hq : q.activeAt now = true
        · simp [hq, hactive.mpr hq, hrq.reservationId, hrq.expiresAtUnixMs]
        · simp [hq, mt hactive.mp hq, hrq.reservationId, hrq.expiresAtUnixMs]
    | none =>
      cases he : e.reservations.lookup request.intent.orderId with
      | some q => simp [hl, he] at hlookup
      | none =>
        have hmirrors := request.reservation_mirrors now
        simp only [h.exceeded_eq hnonneg, hmirrors.notional, hmirrors.margin,
          hmirrors.reservationId, hmirrors.expiresAtUnixMs]
        cases e.exceeded now (request.eagerReservation now).notional
            (request.eagerReservation now).margin with
        | some reason => exact ⟨rfl, h.mirrors⟩
        | none => exact ⟨rfl, h.mirrors.book hl request⟩

/-- A release takes the same reservation out of both. The ledger may release one that lapsed
without being swept; the reference leaves that one alone.

**Proof sketch.** If the reservation is active it is retired here and released there. One that has
lapsed is retired here only, and has passed its deadline there; a terminal one is left alone on both
sides. -/
lemma LedgerState.Mirrors.release {t now : ℤ} (ht : t ≤ now) {l : LedgerState ℚ}
    {e : EagerLedger} (h : l.Mirrors t e) (request : ReleaseOrderRequest) :
    (releaseInLedger request l).1 = { released := true } ∧
      (releaseInLedger request l).2.Mirrors now (e.release now request.orderId) := by
  have h := h.mono ht
  have hlookup := h.reservations.lookup request.orderId
  rw [releaseInLedger, EagerLedger.release]
  cases hl : l.reservations.lookup request.orderId with
  | none =>
    cases he : e.reservations.lookup request.orderId with
    | some q => simp [hl, he] at hlookup
    | none =>
      rw [UnorderedMap.modify_eq_self fun v hv => by rw [he] at hv; cases hv]
      exact ⟨rfl, h⟩
  | some r =>
    refine ⟨rfl, ?_⟩
    dsimp only
    by_cases hr : r.status = "reserved"
    · rw [if_pos hr]
      have hlabel := request.reason.label_mem
      refine ⟨h.policy, ?_, ⟨retire_countsReserved hl hr hlabel h.conserved.counts,
        retire_sumsReserved hl hr hlabel h.conserved.sums⟩⟩
      rw [reservations_retire]
      apply h.reservations.modify
      intro s q hs hsq
      obtain rfl : r = s := Option.some.inj (hl.symm.trans hs)
      have hne := ne_reserved_of_mem_terminalLabels hlabel
      by_cases hq : q.activeAt now = true
      · rw [if_pos hq]
        exact ⟨hsq.reservationId, hsq.notional, hsq.margin, hsq.expiresAtUnixMs,
          fun hr' => absurd hr' hne, fun _ => .inl rfl⟩
      · rw [if_neg hq]
        refine ⟨hsq.reservationId, hsq.notional, hsq.margin, hsq.expiresAtUnixMs,
          fun hr' => absurd hr' hne, fun _ => .inr ?_⟩
        simpa [EagerReservation.activeAt, hsq.reserved hr] using hq
    · rw [if_neg hr]
      refine ⟨h.policy, ?_, h.conserved⟩
      -- the reference does not change it either: a terminal one is not active
      rw [show l.reservations = l.reservations.modify request.orderId id from
        (UnorderedMap.modify_eq_self fun _ _ => rfl).symm]
      apply h.reservations.modify
      intro s q hs hsq
      obtain rfl : r = s := Option.some.inj (hl.symm.trans hs)
      rw [if_neg fun hq => hr ((hsq.activeAt_iff le_rfl).mpr hq).1]
      exact hsq

/-- On a swept ledger a reservation is shown as in the reference. -/
lemma LedgerState.Swept.view {now : ℤ} {l : LedgerState ℚ} {e : EagerLedger} (h : l.Swept now e)
    (orderId : String) :
    Option.Rel (fun r q => (r.view orderId).Same (q.view orderId now))
      (l.reservations.lookup orderId) (e.reservations.lookup orderId) := by
  have hlookup := h.reservations.lookup orderId
  generalize l.reservations.lookup orderId = r at hlookup ⊢
  generalize e.reservations.lookup orderId = q at hlookup ⊢
  cases hlookup with
  | none => exact .none
  | @some r q hrq =>
    refine .some ⟨rfl, hrq.1.reservationId, hrq.1.expiresAtUnixMs, ?_⟩
    show r.status = "reserved" ↔ (if q.activeAt now then "reserved" else "inactive") = "reserved"
    rw [hrq.2]
    split_ifs with hactive <;> simp [hactive]

/-- On a swept ledger the list of the active reservations is that of the reference, up to its
order.

**Proof sketch.** A reservation is reserved if and only if it is active in the reference, so the
lists are the same but for the order in which the loop meets the entries. -/
lemma LedgerState.Swept.list {now : ℤ} {l : LedgerState ℚ} {e : EagerLedger}
    (h : l.Swept now e) (order : IterationOrder String) :
    (listInLedger order l).reservations.Perm
      ((e.active now).map fun x => x.2.view x.1 now) := by
  have hlist : (l.reservations.entries.filter fun x => decide (x.2.status = "reserved")).map
      (fun x => x.2.view x.1) = (e.active now).map fun x => x.2.view x.1 now := by
    have hactive : ∀ (k : String) r q, ReservationState.Swept now r q →
        decide (r.status = "reserved") = q.activeAt now := by
      intro _ r q hrq
      rw [Bool.eq_iff_iff, decide_eq_true_eq]
      exact hrq.2
    refine h.reservations.map_filter_eq (p := fun _ r => decide (r.status = "reserved"))
      (q := fun _ q => q.activeAt now) (f := fun k r => r.view k) (g := fun k q => q.view k now)
      hactive ?_
    intro k r q hrq hr
    have hq := hactive k r q hrq
    rw [hr] at hq
    simp [ReservationState.view, EagerReservation.view, hrq.1.reservationId,
      hrq.1.expiresAtUnixMs, ← hq, of_decide_eq_true hr]
  have hkeys := UnorderedMap.filterMap_keys
    (fun r : ReservationState ℚ => decide (r.status = "reserved")) (fun k r => r.view k)
    l.reservations
  rw [← hlist, ← hkeys]
  refine ((order.perm _).filterMap _).trans (List.Perm.of_eq ?_)
  congr 1
  funext k
  cases l.reservations.lookup k with
  | none => rfl
  | some r =>
    by_cases hr : r.status = "reserved" <;> simp [hr]

/-! ## One call -/

/-- The entry of an account and its counterpart in the reference at the time `t`. -/
abbrev Mirrors (t : ℤ) : Option (LedgerState ℚ) → Option EagerLedger → Prop :=
  Option.Rel (LedgerState.Mirrors t)

/-- Time passes. -/
lemma Mirrors.mono {t now : ℤ} (ht : t ≤ now) {entry : Option (LedgerState ℚ)}
    {entry' : Option EagerLedger} (h : Mirrors t entry entry') : Mirrors now entry entry' := by
  cases h with
  | none => exact .none
  | some h => exact .some (h.mono ht)

/-- A call for an account without a ledger is answered as in the reference, which creates one when
the service does.

**Proof sketch.** By cases on the call. Only an upsert creates a ledger, on both sides an empty
one. -/
lemma lazyExpiry_none {call : Call ℚ} {gLedgers : Ledgers ℚ}
    (hl : gLedgers.lookup call.account = none) :
    SameAnswer (serve call gLedgers).1 (eagerServe call none).1 ∧
      Mirrors call.now ((serve call gLedgers).2.lookup call.account)
        (eagerServe call none).2 := by
  obtain ⟨request, now, order⟩ := call
  cases request with
  | reserveOrder request =>
    simp only [Call.account, Request.account] at hl ⊢
    by_cases hids : request.accountId = "" ∨ request.intent.orderId = "" <;>
      simp [serve, reserveOrder, eagerServe, hids, accountKey, hl, SameAnswer]
  | queryReservation request =>
    simp only [Call.account, Request.account] at hl ⊢
    by_cases hids : request.accountId = "" ∨ request.orderId = "" <;>
      simp [serve, queryReservation, eagerServe, hids, accountKey, hl, SameAnswer]
  | releaseOrder request =>
    simp only [Call.account, Request.account] at hl ⊢
    by_cases hids : request.accountId = "" ∨ request.orderId = "" <;>
      simp [serve, releaseOrder, eagerServe, hids, accountKey, hl, SameAnswer]
  | listActiveReservations request =>
    simp only [Call.account, Request.account] at hl ⊢
    simp [serve, listActiveReservations, eagerServe, accountKey, hl, SameAnswer]
  | getAccountRiskPolicy request =>
    simp only [Call.account, Request.account] at hl ⊢
    simp [serve, getAccountRiskPolicy, eagerServe, accountKey, hl, SameAnswer]
  | upsertAccountRiskPolicy request =>
    simp only [Call.account, Request.account] at hl ⊢
    by_cases hvalid : request.policy.accountId = "" ∨ request.policy.version = 0
    · simp [serve, upsertAccountRiskPolicy, eagerServe, hvalid, hl, SameAnswer]
    · simp only [serve, upsertAccountRiskPolicy_valid request gLedgers hvalid, eagerServe, hvalid,
        if_false, UnorderedMap.lookup_modify_self, UnorderedMap.lookup_emplace_self, hl,
        Option.getD_none, Option.map_some]
      exact ⟨rfl, .some ⟨rfl, .nil, ⟨rfl, fun _ => ⟨rfl, rfl⟩⟩⟩⟩

/-- A call at a time no earlier than `t`, on a ledger without negative amounts, is answered as
in the reference and leaves that ledger as in the reference.

**Proof sketch.** By cases on the call. The calls that sweep settle which reservations are
active, and their decisions read off the sums that the reference computes. A release meets
reservations that have not been swept. The other two calls look at the policy only. -/
lemma lazyExpiry_some {t : ℤ} {call : Call ℚ} (ht : t ≤ call.now) {gLedgers : Ledgers ℚ}
    {l : LedgerState ℚ} (hl : gLedgers.lookup call.account = some l) {e : EagerLedger}
    (h : l.Mirrors t e) (hnonneg : l.Nonneg) :
    SameAnswer (serve call gLedgers).1 (eagerServe call (some e)).1 ∧
      Mirrors call.now ((serve call gLedgers).2.lookup call.account)
        (eagerServe call (some e)).2 := by
  have hlater : Mirrors call.now (some l) (some e) := .some (h.mono ht)
  obtain ⟨request, now, order⟩ := call
  cases request with
  | reserveOrder request =>
    simp only [Call.account, Request.account] at hl hlater ⊢
    by_cases hids : request.accountId = "" ∨ request.intent.orderId = ""
    · simpa [serve, reserveOrder, eagerServe, hids, hl, SameAnswer] using hlater
    · obtain ⟨hans, hafter⟩ :=
        (h.sweep ht order).reserve (nonneg_expireReservations hnonneg order now) request
      simp only [serve, reserveOrder, eagerServe, hids, if_false, accountKey, hl, SameAnswer,
        UnorderedMap.lookup_modify_self, Option.map_some]
      exact ⟨⟨trivial, hans⟩, .some hafter⟩
  | queryReservation request =>
    simp only [Call.account, Request.account] at hl hlater ⊢
    by_cases hids : request.accountId = "" ∨ request.orderId = ""
    · simpa [serve, queryReservation, eagerServe, hids, hl, SameAnswer] using hlater
    · have hswept := h.sweep ht order
      have hview := hswept.view request.orderId
      simp only [serve, queryReservation, eagerServe, hids, if_false, accountKey, hl,
        UnorderedMap.lookup_modify_self, Option.map_some, queryInLedger]
      generalize (expireReservations order l now).reservations.lookup request.orderId = r
        at hview ⊢
      generalize e.reservations.lookup request.orderId = q at hview ⊢
      cases hview with
      | none => exact ⟨⟨rfl, .none⟩, .some hswept.mirrors⟩
      | some hsame => exact ⟨⟨rfl, .some hsame⟩, .some hswept.mirrors⟩
  | releaseOrder request =>
    simp only [Call.account, Request.account] at hl hlater ⊢
    by_cases hids : request.accountId = "" ∨ request.orderId = ""
    · simpa [serve, releaseOrder, eagerServe, hids, hl, SameAnswer] using hlater
    · obtain ⟨hans, hafter⟩ := h.release ht request
      simp only [serve, releaseOrder, eagerServe, hids, if_false, accountKey, hl, SameAnswer,
        UnorderedMap.lookup_modify_self, Option.map_some]
      exact ⟨⟨trivial, hans⟩, .some hafter⟩
  | listActiveReservations request =>
    simp only [Call.account, Request.account] at hl ⊢
    have hswept := h.sweep ht order
    simp only [serve, listActiveReservations, eagerServe, accountKey, hl, SameAnswer,
      UnorderedMap.lookup_modify_self, Option.map_some]
    exact ⟨⟨trivial, hswept.list order⟩, .some hswept.mirrors⟩
  | getAccountRiskPolicy request =>
    simp only [Call.account, Request.account] at hl hlater ⊢
    simpa [serve, getAccountRiskPolicy, eagerServe, accountKey, hl, SameAnswer, h.policy]
      using hlater
  | upsertAccountRiskPolicy request =>
    simp only [Call.account, Request.account] at hl hlater ⊢
    by_cases hvalid : request.policy.accountId = "" ∨ request.policy.version = 0
    · simpa [serve, upsertAccountRiskPolicy, eagerServe, hvalid, hl, SameAnswer] using hlater
    · simp only [serve, upsertAccountRiskPolicy_valid request gLedgers hvalid, eagerServe, hvalid,
        if_false, hl, h.policy]
      split_ifs with hdecrease
      · rw [hl]
        exact ⟨rfl, hlater⟩
      · simp only [UnorderedMap.lookup_modify_self, hl, Option.map_some]
        refine ⟨rfl, .some ⟨rfl, (h.mono ht).reservations, ?_⟩⟩
        exact ⟨h.conserved.counts, h.conserved.sums⟩

/-- A call is answered as in the reference and leaves the entry of its account as in the
reference, whether the account has a ledger or not. -/
lemma lazyExpiry {t : ℤ} {call : Call ℚ} (ht : t ≤ call.now) {gLedgers : Ledgers ℚ}
    {entry : Option EagerLedger} (h : Mirrors t (gLedgers.lookup call.account) entry)
    (hnonneg : ∀ l, gLedgers.lookup call.account = some l → l.Nonneg) :
    SameAnswer (serve call gLedgers).1 (eagerServe call entry).1 ∧
      Mirrors call.now ((serve call gLedgers).2.lookup call.account)
        (eagerServe call entry).2 := by
  cases hl : gLedgers.lookup call.account with
  | none =>
    rw [hl] at h
    cases h
    exact lazyExpiry_none hl
  | some l =>
    rw [hl] at h
    cases h with
    | some h => exact lazyExpiry_some ht hl h (hnonneg l hl)

/-! ## Runs -/

/-- No reservation of any ledger carries a negative amount. -/
def AllNonneg (gLedgers : Ledgers ℚ) : Prop :=
  ∀ a l, gLedgers.lookup a = some l → l.Nonneg

/-- Amounts are never changed, so a run that ends without negative amounts never met any. -/
lemma AllNonneg.of_final {calls : List (Call ℚ)} {gLedgers : Ledgers ℚ}
    (h : AllNonneg (service.final calls gLedgers)) : AllNonneg gLedgers := by
  intro a l hl
  obtain ⟨l', hl', hcont⟩ := continues_final a calls gLedgers l hl
  exact hcont.nonneg (h a l' hl')

/-- The service is simulated by the reference, in environments whose clock does not go back and
which never let a negative amount be approved. -/
def lazySimulation : Machine.Simulation (ι := ℤ) service eagerService where
  guard t call gLedgers := t ≤ call.now ∧ AllNonneg gLedgers
  next _ call := call.now
  rel t gLedgers ledgers := ∀ a, Mirrors t (gLedgers.lookup a) (ledgers a)
  answers _ := SameAnswer
  step t call gLedgers ledgers := by
    rintro ⟨ht, hnonneg⟩ h
    obtain ⟨hans, hafter⟩ := lazyExpiry ht (h call.account) fun l hl => hnonneg _ l hl
    refine ⟨hans, fun a => ?_⟩
    by_cases ha : a = call.account
    · subst ha
      show Mirrors call.now _ (Function.update ledgers call.account _ call.account)
      rw [Function.update_self]
      exact hafter
    · show Mirrors call.now ((serve call gLedgers).2.lookup a)
        (Function.update ledgers call.account _ a)
      rw [Function.update_of_ne ha, lookup_serve_of_ne (Ne.symm ha)]
      exact (h a).mono ht

/-- A run whose clock does not go back, from `t` on, and which ends without negative amounts,
keeps the promise of the simulation. -/
lemma admissible_lazySimulation {calls : List (Call ℚ)} {t : ℤ} {gLedgers : Ledgers ℚ}
    (hclock : (t :: calls.map fun call => call.now).Pairwise (· ≤ ·))
    (hnonneg : AllNonneg (service.final calls gLedgers)) :
    service.Admissible lazySimulation.guard lazySimulation.next t calls gLedgers := by
  induction calls generalizing t gLedgers with
  | nil => trivial
  | cons call calls ih =>
    obtain ⟨ht, hrest⟩ := List.pairwise_cons.mp hclock
    refine ⟨⟨ht _ (List.mem_cons_self ..), hnonneg.of_final⟩, ih hrest hnonneg⟩

/-- **Lazy expiry refines eager expiry.** In every run whose clock readings do not decrease and
whose approved reservations carry no negative amounts, the service answers every call as the
reference does: the answers differ at most in the terminal label of a queried reservation and in
the order in which active reservations are listed.

**Proof sketch.** A simulation whose relation tolerates reservations that lapsed and were not
swept: each call re-establishes it (`lazyExpiry`), and calls for other accounts keep it. -/
theorem lazy_expiry_refines_eager_expiry (calls : List (Call ℚ))
    (hclock : (calls.map fun call => call.now).Pairwise (· ≤ ·))
    (hnonneg : ∀ a l, (service.final calls ∅).lookup a = some l → l.Nonneg) :
    List.Forall₂ (fun x y => x.1 = y.1 ∧ SameAnswer x.2 y.2) (service.trace calls ∅)
      (eagerService.trace calls fun _ => none) := by
  cases calls with
  | nil => exact .nil
  | cons call calls =>
    have hclock' : (call.now :: (call :: calls).map fun call => call.now).Pairwise (· ≤ ·) := by
      refine List.pairwise_cons.mpr ⟨fun now hnow => ?_, hclock⟩
      rcases List.mem_cons.mp hnow with rfl | hnow
      · exact le_rfl
      · exact (List.pairwise_cons.mp hclock).1 now hnow
    exact lazySimulation.run call.now (call :: calls)
      (admissible_lazySimulation hclock' hnonneg) fun a => by
        rw [AList.lookup_empty]
        exact .none

/-- A run in which a reservation lapses, makes room for another one and is asked for again. -/
theorem lazy_expiry_refines_eager_expiry_sample :
    let calls := [Sample.upsert 1 true, Sample.reserve "o1" 7 0, Sample.reserve "o2" 8 300000,
      Sample.reserve "o1" 1 300001]
    List.Forall₂ (fun x y => x.1 = y.1 ∧ SameAnswer x.2 y.2) (service.trace calls ∅)
      (eagerService.trace calls fun _ => none) :=
  lazy_expiry_refines_eager_expiry _ (by decide)
    (UnorderedMap.forall_entries (p := fun _ l => LedgerState.Nonneg l) |>.mp (by decide +kernel))

end AccountRisk
