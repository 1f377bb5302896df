import QTradeService.AccountRisk.Lifecycle

set_option relaxedAutoImplicit false
set_option autoImplicit false

/-!
# The views of a ledger agree

Three handlers let clients see the reservations of an account: `ListActiveReservations`,
`QueryReservation`, and a `ReserveOrder` for an order that has an entry. Each of them sweeps on
its own, and so changes the state that the next one reads. They agree all the same: the sweep is
idempotent, and what they read of a swept ledger is the same map.

## Main definitions

* `AccountRisk.Request.Views` — the requests that only sweep a ledger and read it.

## Main results

* `AccountRisk.mem_listInLedger`, `AccountRisk.orderIds_listInLedger` — what the list contains.
* `AccountRisk.serve_eq_of_sweptAlike` — views of ledgers that look alike after a sweep.
* `AccountRisk.views_agree` — the three views agree, in every reachable state.
-/

namespace AccountRisk

variable {α : Type}

section Service

variable [Zero α] [Add α] [Sub α] [Mul α] [NatCast α] [LT α] [DecidableLT α]

/-! ## Identifiers are never empty -/

/-- No call creates a ledger for an account without a name. -/
lemma lookup_serve_empty {gLedgers : Ledgers α} (h : gLedgers.lookup "" = none) (call : Call α) :
    (serve call gLedgers).2.lookup "" = none := by
  have hstep := ledgerStep_serve "" call gLedgers
  rw [h] at hstep
  generalize (serve call gLedgers).1 = reply at hstep
  generalize hentry : (serve call gLedgers).2.lookup "" = entry at hstep ⊢
  cases hstep with
  | idle => rfl
  | create request isUpsert account version =>
    -- such a request is turned away before the ledger is created
    simp [serve, isUpsert, upsertAccountRiskPolicy, account, h] at hentry

/-- No account without a name has a ledger. -/
lemma lookup_empty_of_reachable {gLedgers : Ledgers α} (h : Reachable gLedgers) :
    gLedgers.lookup "" = none :=
  h.invariant (I := fun s : Ledgers α => s.lookup "" = none)
    (fun call _ hs => lookup_serve_empty hs call) rfl

/-- No order without a name has a reservation. -/
lemma reservationOf_empty_of_reachable {gLedgers : Ledgers α} (h : Reachable gLedgers)
    (a : String) : reservationOf gLedgers a "" = none := by
  refine h.invariant (I := fun s : Ledgers α => reservationOf s a "" = none)
    (fun call s hs => ?_) rfl
  show reservationOf (serve call s).2 a "" = none
  cases hr : reservationOf (serve call s).2 a "" with
  | none => rfl
  | some r =>
    obtain ⟨happroved, request, hreq, -, horder, -⟩ := new_reservation hs hr
    exact absurd (Or.inr horder) (ids_of_approved hreq happroved)

/-! ## The list -/

omit [Zero α] [Add α] [Sub α] [Mul α] [NatCast α] [LT α] [DecidableLT α] in
/-- The orders on the list are the ones that are reserved, in the order of the loop.

**Proof sketch.** By induction on the keys that the loop visits: it keeps a key if and only if its
entry is reserved. -/
lemma orderIds_listInLedger (order : IterationOrder String) (l : LedgerState α) :
    (listInLedger order l).reservations.map (fun v => v.orderId) =
      (order.visit l.reservations.keys).filter l.holds := by
  unfold listInLedger LedgerState.holds
  induction order.visit l.reservations.keys with
  | nil => rfl
  | cons orderId visits ih =>
    simp only [List.filterMap_cons, List.filter_cons]
    cases hl : l.reservations.lookup orderId with
    | none => simpa using ih
    | some state =>
      by_cases hs : state.status = "reserved"
      · simpa [hs, ReservationState.view] using ih
      · simpa [hs] using ih

omit [Zero α] [Add α] [Sub α] [Mul α] [NatCast α] [LT α] [DecidableLT α] in
/-- The entries of the list are the views of the reserved reservations.

**Proof sketch.** The loop visits every key, and appends the view of its entry if that is
reserved. -/
lemma mem_listInLedger {order : IterationOrder String} {l : LedgerState α} {v : Reservation} :
    v ∈ (listInLedger order l).reservations ↔
      ∃ state, l.reservations.lookup v.orderId = some state ∧ state.status = "reserved" ∧
        state.view v.orderId = v := by
  simp only [listInLedger, List.mem_filterMap, IterationOrder.mem_visit]
  constructor
  · rintro ⟨orderId, -, hv⟩
    cases hl : l.reservations.lookup orderId with
    | none => simp [hl] at hv
    | some state =>
      by_cases hs : state.status = "reserved"
      · obtain rfl : state.view orderId = v := by simpa [hl, hs] using hv
        exact ⟨state, hl, hs, rfl⟩
      · simp [hl, hs] at hv
  · rintro ⟨state, hl, hs, hv⟩
    refine ⟨v.orderId, ?_, by simp [hl, hs, hv]⟩
    rw [← AList.mem_keys]
    exact AList.lookup_isSome.mp (by rw [hl]; rfl)

omit [Zero α] [Add α] [Sub α] [Mul α] [NatCast α] [LT α] [DecidableLT α] in
/-- No order is listed twice. -/
lemma nodup_listInLedger (order : IterationOrder String) (l : LedgerState α) :
    ((listInLedger order l).reservations.map fun v => v.orderId).Nodup := by
  rw [orderIds_listInLedger]
  exact (order.nodup_visit l.reservations.keys_nodup).filter _

omit [Zero α] [Add α] [Sub α] [Mul α] [NatCast α] [LT α] [DecidableLT α] in
/-- The list is as long as there are reserved reservations. -/
lemma length_listInLedger (order : IterationOrder String) (l : LedgerState α) :
    (listInLedger order l).reservations.length = l.reserved.length := by
  have hlen := congrArg List.length (orderIds_listInLedger order l)
  rw [List.length_map] at hlen
  rw [hlen, length_reserved, ← List.countP_eq_length_filter,
    (order.perm l.reservations.keys).countP_eq]

/-! ## Requests that only look -/

/-- The requests that sweep the ledger of their account and read it, and nothing else: the two
queries, and a `ReserveOrder` for an order that has an entry. -/
inductive Request.Views (ledger : LedgerState α) : Request α → Prop
  | query (request : GetReservationRequest) : Views ledger (.queryReservation request)
  | list (request : ListActiveReservationsRequest) :
      Views ledger (.listActiveReservations request)
  | reserve (request : ReserveOrderRequest α)
      (known : request.intent.orderId ∈ ledger.reservations) :
      Views ledger (.reserveOrder request)

/-- On an order that has an entry, `ReserveOrder` leaves the swept ledger as it is. -/
lemma reserveInLedger_known {now : ℤ} {request : ReserveOrderRequest α} {l : LedgerState α}
    (h : request.intent.orderId ∈ l.reservations) : (reserveInLedger now request l).2 = l := by
  obtain ⟨existing, hl⟩ := Option.isSome_iff_exists.mp (AList.lookup_isSome.mpr h)
  have hout := reserveInLedger_outcome now request l
  generalize reserveInLedger now request l = out at hout
  cases hout with
  | gated => rfl
  | known => rfl
  | exceeded => rfl
  | booked gate new fits =>
    rw [hl] at new
    cases new

/-- A view leaves the ledger of its account alone or swept.

**Proof sketch.** By cases on the view. A request that lacks an id leaves the ledger alone, and the
others sweep it; a known order is not booked again. -/
lemma lookup_serve_of_views {call : Call α} {gLedgers : Ledgers α} {l : LedgerState α}
    (hl : gLedgers.lookup call.account = some l) (h : call.request.Views l) :
    (serve call gLedgers).2.lookup call.account = some l ∨
      (serve call gLedgers).2.lookup call.account =
        some (expireReservations call.order l call.now) := by
  obtain ⟨request, now, order⟩ := call
  cases h with
  | query request =>
    simp only [Call.account, Request.account] at hl ⊢
    simp only [serve, queryReservation, accountKey, hl]
    split_ifs with hids
    · exact .inl hl
    · exact .inr (by simp [hl])
  | list request =>
    simp only [Call.account, Request.account] at hl ⊢
    simp [serve, listActiveReservations, accountKey, hl]
  | reserve request known =>
    simp only [Call.account, Request.account] at hl ⊢
    have hknown : request.intent.orderId ∈ (expireReservations order l now).reservations := by
      rw [reservations_expireReservations, UnorderedMap.mem_mapEntries]
      exact known
    simp only [serve, reserveOrder, accountKey, hl]
    split_ifs with hids
    · exact .inl hl
    · exact .inr (by simp [hl, reserveInLedger_known hknown])

/-- Two ledgers with the same policy whose reservations are the same after a sweep give a view
the same answer: no view reads the cached totals.

**Proof sketch.** By cases on the view: its answer is read off the swept reservations, and for a
known order off the gates as well. -/
lemma serve_eq_of_sweptAlike {call : Call α} {gLedgers gLedgers' : Ledgers α}
    {l l' : LedgerState α} (hl : gLedgers.lookup call.account = some l)
    (hl' : gLedgers'.lookup call.account = some l') (h : call.request.Views l)
    (hpolicy : l'.policy = l.policy)
    (hswept : (expireReservations call.order l' call.now).reservations =
      (expireReservations call.order l call.now).reservations) :
    (serve call gLedgers').1 = (serve call gLedgers).1 := by
  obtain ⟨request, now, order⟩ := call
  cases h with
  | query request =>
    simp only [Call.account, Request.account] at hl hl'
    simp only [serve, queryReservation, accountKey, hl, hl']
    split_ifs
    · rfl
    · simp only [queryInLedger, hswept]
  | list request =>
    simp only [Call.account, Request.account] at hl hl'
    simp only [serve, listActiveReservations, accountKey, hl, hl', listInLedger, hswept]
  | reserve request known =>
    simp only [Call.account, Request.account] at hl hl'
    obtain ⟨existing, hr⟩ := Option.isSome_iff_exists.mp (AList.lookup_isSome.mpr known)
    have hfound : (expireReservations order l now).reservations.lookup request.intent.orderId =
        some (existing.expire now) := by
      rw [lookup_expireReservations, hr]
      rfl
    simp only [serve, reserveOrder, accountKey, hl, hl']
    split_ifs
    · rfl
    · simp only [reserveInLedger, policy_expireReservations, hpolicy, hswept, hfound]
      cases l.policy.gate now request.riskConfigVersion <;> rfl

/-- A view does not change the answer to another view at the same time. -/
lemma serve_of_views {first second : Call α} {gLedgers : Ledgers α} {l : LedgerState α}
    (hl : gLedgers.lookup first.account = some l) (haccount : second.account = first.account)
    (hnow : second.now = first.now) (hfirst : first.request.Views l)
    (hsecond : second.request.Views l) :
    (serve second (serve first gLedgers).2).1 = (serve second gLedgers).1 := by
  rcases lookup_serve_of_views hl hfirst with hidle | hswept
  · exact serve_eq_of_sweptAlike (haccount ▸ hl) (haccount ▸ hidle) hsecond rfl rfl
  · apply serve_eq_of_sweptAlike (haccount ▸ hl) (haccount ▸ hswept) hsecond
    · exact policy_expireReservations ..
    · -- sweeping twice at one time is sweeping once
      rw [hnow, reservations_expireReservations_twice, max_self, reservations_expireReservations]

/-! ## The views agree -/

omit [Add α] [Mul α] [NatCast α] in
/-- After the sweep the list shows the active reservations. -/
lemma mem_list_swept {order : IterationOrder String} {l : LedgerState α} {now : ℤ}
    {v : Reservation} :
    v ∈ (listInLedger order (expireReservations order l now)).reservations ↔
      ∃ r, l.reservations.lookup v.orderId = some r ∧ r.activeAt now ∧ r.view v.orderId = v := by
  rw [mem_listInLedger]
  constructor
  · rintro ⟨state, hstate, hs, hv⟩
    rw [lookup_expireReservations, Option.map_eq_some_iff] at hstate
    obtain ⟨r, hr, rfl⟩ := hstate
    have hactive := ReservationState.status_expire.mp hs
    rw [ReservationState.expire_of_activeAt hactive] at hv
    exact ⟨r, hr, hactive, hv⟩
  · rintro ⟨r, hr, hactive, hv⟩
    exact ⟨r, by simp [hr, ReservationState.expire_of_activeAt hactive], hactive.1, hv⟩

/-- The answer `reserved` of a query shows an active reservation.

**Proof sketch.** The query shows the expired entry of the order, and this is reserved if and only
if the entry is active. -/
lemma queryReservation_reserved_iff {gLedgers : Ledgers α} {a o : String} {l : LedgerState α}
    (hl : gLedgers.lookup a = some l) (ha : a ≠ "") (ho : o ≠ "") {now : ℤ}
    {order : IterationOrder String} {v : Reservation} :
    (serve ⟨.queryReservation ⟨a, o⟩, now, order⟩ gLedgers).1 = .queryReservation .OK ⟨some v⟩ ∧
        v.status = "reserved" ↔
      ∃ r, l.reservations.lookup o = some r ∧ r.activeAt now ∧ r.view o = v := by
  simp only [serve, queryReservation, ha, ho, or_self, if_false, accountKey, hl, queryInLedger,
    lookup_expireReservations]
  cases hr : l.reservations.lookup o with
  | none => simp [Grpc.Status.OK]
  | some r =>
    simp only [Option.map_some, Reply.queryReservation.injEq, GetReservationResponse.mk.injEq,
      Option.some.injEq, true_and, exists_eq_left']
    constructor
    · rintro ⟨rfl, hs⟩
      have hactive := ReservationState.status_expire.mp hs
      exact ⟨hactive, by rw [ReservationState.expire_of_activeAt hactive]⟩
    · rintro ⟨hactive, rfl⟩
      exact ⟨by rw [ReservationState.expire_of_activeAt hactive], hactive.1⟩

/-- `ReserveOrder` for an order whose entry is not active rejects it. -/
lemma serve_of_not_activeAt {call : Call α} {request : ReserveOrderRequest α}
    (hreq : call.request = .reserveOrder request)
    (hids : ¬(request.accountId = "" ∨ request.intent.orderId = "")) {gLedgers : Ledgers α}
    {ledger : LedgerState α} (hl : gLedgers.lookup request.accountId = some ledger)
    {r : ReservationState α} (hr : ledger.reservations.lookup request.intent.orderId = some r)
    (hactive : ¬r.activeAt call.now)
    (hgate : ledger.policy.gate call.now request.riskConfigVersion = none) :
    ∃ response, (serve call gLedgers).1 = .reserveOrder .OK response ∧
      response.decision = .rejected ∧ response.rejectReason = "ORDER_ID_ALREADY_TERMINAL" := by
  obtain ⟨hreply, -⟩ := serve_reserveOrder hreq hids hl
  have hs : (r.expire call.now).status ≠ "reserved" := mt ReservationState.status_expire.mp hactive
  refine ⟨_, hreply, ?_⟩
  simp [reserveInLedger, hgate, hr, hs]

/-- The list shows an order exactly if a query answers `reserved` for it.

**Proof sketch.** Both show the active entries. An order without a name has no entry on the ledger,
and is refused by the query. -/
lemma mem_list_iff_queryReservation {gLedgers : Ledgers α} {a : String} {l : LedgerState α}
    (hl : gLedgers.lookup a = some l) (ha : a ≠ "") (hnamed : l.reservations.lookup "" = none)
    {now : ℤ} {order order' : IterationOrder String} {o : String} {v : Reservation} :
    v ∈ (listInLedger order (expireReservations order l now)).reservations ∧ v.orderId = o ↔
      (serve ⟨.queryReservation ⟨a, o⟩, now, order'⟩ gLedgers).1 = .queryReservation .OK ⟨some v⟩ ∧
        v.status = "reserved" := by
  rw [mem_list_swept]
  by_cases ho : o = ""
  · -- the query turns an order without a name away, and the ledger has none
    subst ho
    constructor
    · rintro ⟨⟨r, hr, -⟩, hv⟩
      rw [hv, hnamed] at hr
      cases hr
    · rintro ⟨hreply, -⟩
      simp [serve, queryReservation, invalidArgument, Grpc.Status.OK] at hreply
  · rw [queryReservation_reserved_iff hl ha ho]
    constructor
    · rintro ⟨⟨r, hr, hactive, hv⟩, rfl⟩
      exact ⟨r, hr, hactive, hv⟩
    · rintro ⟨r, hr, hactive, rfl⟩
      exact ⟨⟨r, hr, hactive, rfl⟩, rfl⟩

omit [Add α] [Mul α] [NatCast α] in
/-- The list is as long as the counter of open orders says, whatever the order of the sweep. -/
lemma length_list_swept {l : LedgerState α} (h : l.CountsReserved)
    (order order' : IterationOrder String) (now : ℤ) :
    (listInLedger order (expireReservations order l now)).reservations.length =
      (expireReservations order' l now).reservedOpenOrders := by
  have hswept : (expireReservations order l now).reserved =
      (expireReservations order' l now).reserved := by
    rw [LedgerState.reserved, LedgerState.reserved, reservations_expireReservations,
      reservations_expireReservations]
  rw [length_listInLedger, hswept]
  exact (expireReservations_countsReserved order' l now h).symm

/-- `ReserveOrder` approves an order that is listed, and shows the entry of the list. -/
lemma serve_of_listed {call : Call α} {request : ReserveOrderRequest α}
    (hreq : call.request = .reserveOrder request)
    (hids : ¬(request.accountId = "" ∨ request.intent.orderId = "")) {gLedgers : Ledgers α}
    {ledger : LedgerState α} (hl : gLedgers.lookup request.accountId = some ledger)
    (hgate : ledger.policy.gate call.now request.riskConfigVersion = none)
    {order : IterationOrder String} {v : Reservation}
    (hv : v ∈ (listInLedger order (expireReservations order ledger call.now)).reservations)
    (hvo : v.orderId = request.intent.orderId) :
    (serve call gLedgers).1 = .reserveOrder .OK
      { decision := .approved
        policyVersion := ledger.policy.version
        reservationId := v.reservationId
        expiresAtUnixMs := v.expiresAtUnixMs } := by
  obtain ⟨r, hr, hactive, hview⟩ := mem_list_swept.mp hv
  rw [hvo] at hr
  rw [(serve_of_activeAt hreq hids hl hr hactive hgate).1, ← hview]
  rfl

/-- `ReserveOrder` rejects an order that has an entry but is not listed. -/
lemma serve_of_unlisted {call : Call α} {request : ReserveOrderRequest α}
    (hreq : call.request = .reserveOrder request)
    (hids : ¬(request.accountId = "" ∨ request.intent.orderId = "")) {gLedgers : Ledgers α}
    {ledger : LedgerState α} (hl : gLedgers.lookup request.accountId = some ledger)
    (hgate : ledger.policy.gate call.now request.riskConfigVersion = none)
    (hknown : request.intent.orderId ∈ ledger.reservations) {order : IterationOrder String}
    (hunlisted : ∀ v ∈ (listInLedger order (expireReservations order ledger call.now)).reservations,
      v.orderId ≠ request.intent.orderId) :
    ∃ response, (serve call gLedgers).1 = .reserveOrder .OK response ∧
      response.decision = .rejected ∧ response.rejectReason = "ORDER_ID_ALREADY_TERMINAL" := by
  obtain ⟨r, hr⟩ := Option.isSome_iff_exists.mp (AList.lookup_isSome.mpr hknown)
  apply serve_of_not_activeAt hreq hids hl hr _ hgate
  intro hactive
  exact hunlisted (r.view request.intent.orderId)
    (mem_list_swept.mpr ⟨r, hr, hactive, rfl⟩) rfl

/-- **The views of a ledger agree.** In every reachable state, for every account with a ledger
and every reading of the clock: `ListActiveReservations` lists no order twice, and lists an
order exactly if `QueryReservation` answers `reserved` for it, with the same identifier and
deadline; the list is as long as the counter of open orders says after the sweep; a
`ReserveOrder` that passes the gates, for an order with an entry, is approved with the listed
identifier and deadline if the order is listed, and is rejected as terminal if not; and any of
these calls may be made before another without changing its answer.

**Proof sketch.** Each view shows the reservations of the ledger after a sweep, and two sweeps
at one time are one. The counter is exact in reachable states, and no stored account or order
has an empty name, which `QueryReservation` would turn away. -/
theorem views_agree {gLedgers : Ledgers α} (h : Reachable gLedgers) (a : String)
    (ledger : LedgerState α) (hl : gLedgers.lookup a = some ledger) (now : ℤ)
    (order : IterationOrder String) :
    ∃ listed : List Reservation,
      (serve ⟨.listActiveReservations ⟨a⟩, now, order⟩ gLedgers).1 =
        .listActiveReservations .OK ⟨listed⟩ ∧
      (listed.map fun v => v.orderId).Nodup ∧
      (∀ o order' v, v ∈ listed ∧ v.orderId = o ↔
        (serve ⟨.queryReservation ⟨a, o⟩, now, order'⟩ gLedgers).1 =
          .queryReservation .OK ⟨some v⟩ ∧ v.status = "reserved") ∧
      (∀ order', listed.length = (expireReservations order' ledger now).reservedOpenOrders) ∧
      (∀ order' (request : ReserveOrderRequest α), request.accountId = a →
        request.intent.orderId ≠ "" → request.intent.orderId ∈ ledger.reservations →
        ledger.policy.gate now request.riskConfigVersion = none →
        (∀ v ∈ listed, v.orderId = request.intent.orderId →
          (serve ⟨.reserveOrder request, now, order'⟩ gLedgers).1 = .reserveOrder .OK
            { decision := .approved
              policyVersion := ledger.policy.version
              reservationId := v.reservationId
              expiresAtUnixMs := v.expiresAtUnixMs }) ∧
        ((∀ v ∈ listed, v.orderId ≠ request.intent.orderId) →
          ∃ response, (serve ⟨.reserveOrder request, now, order'⟩ gLedgers).1 =
              .reserveOrder .OK response ∧
            response.decision = .rejected ∧
            response.rejectReason = "ORDER_ID_ALREADY_TERMINAL")) ∧
      ∀ first second : Call α, first.account = a → second.account = a → first.now = now →
        second.now = now → first.request.Views ledger → second.request.Views ledger →
        (serve second (serve first gLedgers).2).1 = (serve second gLedgers).1 := by
  have ha : a ≠ "" := by
    rintro rfl
    rw [lookup_empty_of_reachable h] at hl
    cases hl
  have hnamed : ledger.reservations.lookup "" = none :=
    reservationOf_eq_none.mp (reservationOf_empty_of_reachable h a) ledger hl
  refine ⟨(listInLedger order (expireReservations order ledger now)).reservations, ?_,
    nodup_listInLedger order _, ?_, ?_, ?_, ?_⟩
  · simp [serve, listActiveReservations, accountKey, hl]
  · exact fun o order' v => mem_list_iff_queryReservation hl ha hnamed
  · exact fun order' =>
      length_list_swept (countsReserved_of_reachable h a ledger hl) order order' now
  · intro order' request haccount horder hknown hgate
    subst haccount
    have hids : ¬(request.accountId = "" ∨ request.intent.orderId = "") := by simp [ha, horder]
    constructor
    · intro v hv hvo
      exact serve_of_listed rfl hids hl hgate hv hvo
    · intro hunlisted
      exact serve_of_unlisted rfl hids hl hgate hknown hunlisted
  · intro first second hfirst hsecond hnow hnow' hviews hviews'
    exact serve_of_views (hfirst ▸ hl) (hsecond.trans hfirst.symm) (hnow'.trans hnow.symm) hviews
      hviews'

end Service

/-- Two orders, of which one has lapsed: the list has one entry, the one that is `reserved`. -/
theorem views_agree_sample :
    let gLedgers := service.final [Sample.upsert 1 true, Sample.reserve "o1" 2 0,
      Sample.reserve "o2" 3 1] (∅ : Ledgers ℚ)
    ∃ listed,
      (serve ⟨.listActiveReservations ⟨"acc"⟩, 300000, .stored⟩ gLedgers).1 =
        .listActiveReservations .OK ⟨listed⟩ ∧
      listed.length = 1 ∧
      (⟨"o2", "RSV-o2", "reserved", 300001⟩ : Reservation) ∈ listed ∧
      ∀ v ∈ listed, v.orderId ≠ "o1" := by
  intro gLedgers
  obtain ⟨ledger, hl⟩ : ∃ ledger, gLedgers.lookup "acc" = some ledger := ⟨_, rfl⟩
  have hrun := (Option.some.inj hl).symm
  have hone : (expireReservations .stored ledger 300000).reservedOpenOrders = 1 := by
    subst hrun
    decide +kernel
  have ⟨ho₂, ho₁⟩ : (serve ⟨.queryReservation ⟨"acc", "o2"⟩, 300000, .stored⟩ gLedgers).1 =
        .queryReservation .OK ⟨some ⟨"o2", "RSV-o2", "reserved", 300001⟩⟩ ∧
      (serve ⟨.queryReservation ⟨"acc", "o1"⟩, 300000, .stored⟩ gLedgers).1 =
        .queryReservation .OK ⟨some ⟨"o1", "RSV-o1", "expired", 300000⟩⟩ := by decide +kernel
  obtain ⟨listed, hlist, -, hquery, hlength, -⟩ :=
    views_agree (reachable_final [Sample.upsert 1 true, Sample.reserve "o1" 2 0,
      Sample.reserve "o2" 3 1]) "acc" ledger hl 300000 .stored
  refine ⟨listed, hlist, (hlength .stored).trans hone, ?_, ?_⟩
  · exact ((hquery "o2" .stored _).mpr ⟨ho₂, rfl⟩).1
  · intro v hv ho
    obtain ⟨hreply, hs⟩ := (hquery "o1" .stored v).mp ⟨hv, ho⟩
    rw [ho₁] at hreply
    cases hreply
    exact absurd hs (by decide)

end AccountRisk
