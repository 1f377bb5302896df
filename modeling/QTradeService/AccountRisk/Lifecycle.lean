import QTradeService.AccountRisk.Conservation

set_option relaxedAutoImplicit false
set_option autoImplicit false

/-!
# The lifecycle of a reservation

What a client can rely on about one order, whatever the other clients do in between: what the
answers to `ReserveOrder` say about its reservation, what a retry is answered, what a release
settles, and how often the order is debited.

## Main definitions

* `AccountRisk.Call.reserves` — a call is a `ReserveOrder` for a given account and order.
* `AccountRisk.gateReasons` — the reasons of the rejections that do not look at the order.
* `AccountRisk.LedgerState.statusChanges`, `AccountRisk.LedgerState.created` — how many
  reservations changed their status, or were stored, between two ledgers.

## Main results

* `AccountRisk.reserve_idempotent` — retries of `ReserveOrder`.
* `AccountRisk.release_final` — what a release settles under any delivery order.
* `AccountRisk.reservation_lifecycle` — the history of one reservation.
-/

namespace AccountRisk

variable {α : Type}

/-- The call is a `ReserveOrder` for the order `orderId` of the account `a`. -/
def Call.reserves (call : Call α) (a orderId : String) : Prop :=
  ∃ request, call.request = .reserveOrder request ∧ request.accountId = a ∧
    request.intent.orderId = orderId

/-- The reasons of the rejections that are decided before the order is looked up. -/
def gateReasons : List String :=
  ["ACCOUNT_RISK_DISABLED", "ACCOUNT_RISK_POLICY_EXPIRED", "RISK_POLICY_VERSION_MISMATCH"]

/-- The gates reject with one of these reasons. -/
lemma mem_gateReasons {policy : AccountRiskPolicy α} {now : ℤ} {version : ℕ} {reason : String}
    (h : policy.gate now version = some reason) : reason ∈ gateReasons := by
  unfold AccountRiskPolicy.gate at h
  split_ifs at h <;> cases h <;> decide

section Service

variable [Zero α] [Add α] [Sub α] [Mul α] [NatCast α] [LT α] [DecidableLT α]

/-! ## What the answers say -/

/-- After an approval the order is reserved, and the answer names its reservation.

**Proof sketch.** Of the four ways in which `ReserveOrder` ends two approve: the order was reserved
already, or it has just been booked. -/
lemma reserved_of_approved {call : Call α} {request : ReserveOrderRequest α}
    (hreq : call.request = .reserveOrder request) {gLedgers : Ledgers α}
    (happroved : (serve call gLedgers).1.isApproved = true) :
    ∃ response r, (serve call gLedgers).1 = .reserveOrder .OK response ∧
      reservationOf (serve call gLedgers).2 request.accountId request.intent.orderId = some r ∧
      r.status = "reserved" ∧ response.reservationId = r.reservationId ∧
      response.expiresAtUnixMs = r.expiresAtUnixMs := by
  obtain ⟨ledger, -, out, hout, hdecision, hreply, hafter⟩ :=
    reserveOrder_approved hreq happroved
  cases hout with
  | gated => cases hdecision
  | known existing gate found =>
    by_cases hs : existing.status = "reserved"
    · exact ⟨_, existing, hreply, reservationOf_eq_some.mpr ⟨_, hafter, found⟩, hs, rfl, rfl⟩
    · simp [hs] at hdecision
  | exceeded => cases hdecision
  | booked gate new fits =>
    refine ⟨_, request.reservation call.now, hreply,
      reservationOf_eq_some.mpr ⟨_, hafter, ?_⟩, rfl, rfl, rfl⟩
    rw [LedgerState.lookup_book new, if_pos rfl]

/-- A `ReserveOrder` that is approved carries the identifiers of its account and order. -/
lemma ids_of_approved {call : Call α} {request : ReserveOrderRequest α}
    (hreq : call.request = .reserveOrder request) {gLedgers : Ledgers α}
    (happroved : (serve call gLedgers).1.isApproved = true) :
    ¬(request.accountId = "" ∨ request.intent.orderId = "") := by
  intro hids
  simp [serve, hreq, reserveOrder, hids, Reply.isApproved] at happroved

/-- The answer to a `ReserveOrder` for an active reservation, if the policy lets it pass. -/
lemma serve_of_activeAt {call : Call α} {request : ReserveOrderRequest α}
    (hreq : call.request = .reserveOrder request)
    (hids : ¬(request.accountId = "" ∨ request.intent.orderId = "")) {gLedgers : Ledgers α}
    {ledger : LedgerState α} (hl : gLedgers.lookup request.accountId = some ledger)
    {r : ReservationState α} (hr : ledger.reservations.lookup request.intent.orderId = some r)
    (hactive : r.activeAt call.now)
    (hgate : ledger.policy.gate call.now request.riskConfigVersion = none) :
    (serve call gLedgers).1 = .reserveOrder .OK (bookedResponse ledger.policy.version r) ∧
      (serve call gLedgers).2.lookup request.accountId =
        some (expireReservations call.order ledger call.now) := by
  obtain ⟨hreply, hafter⟩ := serve_reserveOrder hreq hids hl
  have hfound : (expireReservations call.order ledger call.now).reservations.lookup
      request.intent.orderId = some r := by
    simp [hr, ReservationState.expire_of_activeAt hactive]
  rw [hreply, hafter]
  simp [reserveInLedger, hgate, hfound, hactive.1, bookedResponse]

/-! ## Retries -/

/-- **Retries.** Once a `ReserveOrder` has been approved, every later one for the same order
that finds the reservation active, and a policy that lets it pass, is answered APPROVED with the
same identifier and deadline and leaves the ledger as the sweep does: all of it, if nothing has
lapsed. And a REJECTED answer for a reason other than those of the gates means that the account
holds no active reservation for the order.

**Proof sketch.** The approval left the order reserved, and what any run makes of a reservation
has the same identifier and deadline (`reservationOf_final`). The retry finds it after the
sweep. -/
theorem reserve_idempotent (calls : List (Call α)) (retry : Call α)
    (request : ReserveOrderRequest α) (hreq : retry.request = .reserveOrder request) :
    (∀ earlier first between, calls = earlier ++ first :: between →
      first.reserves request.accountId request.intent.orderId →
      ∀ response, (serve first (service.final earlier ∅)).1 = .reserveOrder .OK response →
      response.decision = .approved →
      ∀ ledger r, (service.final calls ∅).lookup request.accountId = some ledger →
      ledger.reservations.lookup request.intent.orderId = some r → r.activeAt retry.now →
      ledger.policy.gate retry.now request.riskConfigVersion = none →
        (serve retry (service.final calls ∅)).1 = .reserveOrder .OK
          { decision := .approved
            policyVersion := ledger.policy.version
            reservationId := response.reservationId
            expiresAtUnixMs := response.expiresAtUnixMs } ∧
        (serve retry (service.final calls ∅)).2.lookup request.accountId =
          some (expireReservations retry.order ledger retry.now) ∧
        ((∀ orderId r, ledger.reservations.lookup orderId = some r → ¬r.lapsed retry.now) →
          (serve retry (service.final calls ∅)).2.lookup request.accountId = some ledger)) ∧
    (∀ status response, (serve retry (service.final calls ∅)).1 = .reserveOrder status response →
      response.decision = .rejected → response.rejectReason ∉ gateReasons →
      ∀ r, reservationOf (service.final calls ∅) request.accountId request.intent.orderId = some r →
        ¬r.activeAt retry.now) := by
  refine ⟨?_, ?_⟩
  · rintro earlier first between rfl ⟨request', hreq', haccount, horder⟩ response hfirst
      happroved ledger r hl hr hactive hgate
    have happroved' : (serve first (service.final earlier ∅)).1.isApproved = true := by
      simp [hfirst, Reply.isApproved, happroved]
    have hids := ids_of_approved hreq' happroved'
    obtain ⟨response', r', hreply, hr', -, hid, hexpires⟩ := reserved_of_approved hreq' happroved'
    rw [haccount, horder] at hids hr'
    obtain rfl : response = response' := by
      rw [hfirst] at hreply
      simpa using hreply
    -- the reservation the retry finds is what became of the approved one
    rw [Machine.final_append, Machine.final_cons] at hl ⊢
    obtain ⟨r'', hr'', hrr⟩ := reservationOf_final hr' between
    obtain rfl : r'' = r :=
      Option.some.inj (hr''.symm.trans (reservationOf_eq_some.mpr ⟨ledger, hl, hr⟩))
    obtain ⟨hans, hafter⟩ := serve_of_activeAt hreq hids hl hr hactive hgate
    refine ⟨?_, hafter, fun hnone => ?_⟩
    · rw [hans, bookedResponse, hid, hexpires, hrr.reservationId, hrr.expiresAtUnixMs]
    · rw [hafter, expireReservations_eq_self hnone]
  · intro status response hreply hrejected hreason r hr hactive
    obtain ⟨ledger, hl, hlr⟩ := reservationOf_eq_some.mp hr
    have hids : ¬(request.accountId = "" ∨ request.intent.orderId = "") := by
      intro hids
      simp only [serve, hreq, reserveOrder, hids, if_true, Reply.reserveOrder.injEq] at hreply
      simp [← hreply.2] at hrejected
    cases hgate : ledger.policy.gate retry.now request.riskConfigVersion with
    | none =>
      have hans := (serve_of_activeAt hreq hids hl hlr hactive hgate).1
      rw [hreply, Reply.reserveOrder.injEq] at hans
      simp [hans.2, bookedResponse] at hrejected
    | some reason =>
      have hans := (serve_reserveOrder hreq hids hl).1
      rw [hreply, Reply.reserveOrder.injEq] at hans
      simp only [reserveInLedger, policy_expireReservations, hgate] at hans
      rw [hans.2] at hreason
      exact hreason (mem_gateReasons hgate)

/-- A retry with another quantity, while the reservation is active. -/
theorem reserve_idempotent_sample :
    (serve (Sample.reserve "o1" 9 2) (service.final [Sample.upsert 1 true,
        Sample.reserve "o1" 2 0, Sample.reserve "o2" 3 1] ∅)).1 =
      .reserveOrder .OK ⟨.approved, "", 1, "RSV-o1", 300000⟩ := by
  obtain ⟨ledger, hl, hview⟩ : ∃ ledger : LedgerState ℚ,
      (service.final [Sample.upsert 1 true, Sample.reserve "o1" 2 0,
        Sample.reserve "o2" 3 1] ∅).lookup "acc" = some ledger ∧
      (ledger.policy, ledger.reservations.lookup "o1") =
        (Sample.policy 1 true, some ⟨"RSV-o1", "reserved", 20, 5, 300000⟩) :=
    Option.map_eq_some_iff.mp (by decide +kernel)
  obtain ⟨hpolicy, hr⟩ := Prod.mk.inj hview
  obtain ⟨hretry, -⟩ := reserve_idempotent [Sample.upsert 1 true, Sample.reserve "o1" 2 0,
    Sample.reserve "o2" 3 1] (Sample.reserve "o1" 9 2) _ rfl
  have hans := (hretry [Sample.upsert 1 true] (Sample.reserve "o1" 2 0) [Sample.reserve "o2" 3 1]
    rfl ⟨_, rfl, rfl, rfl⟩ ⟨.approved, "", 1, "RSV-o1", 300000⟩ (by decide +kernel) rfl ledger _
    hl hr ⟨rfl, by decide⟩ (by rw [hpolicy]; decide +kernel)).1
  rw [hans, hpolicy]
  rfl

/-- Retries need not be answered like the first call, and may change the totals: once an upsert
has disabled the account, a retry is rejected although the order is still reserved; and a retry
that is approved may expire another order. -/
theorem retry_not_idempotent :
    let calls := [Sample.upsert 1 true, Sample.reserve "o1" 2 0]
    (serve (Sample.reserve "o1" 2 0) (service.final [Sample.upsert 1 true] ∅)).1 =
      .reserveOrder .OK ⟨.approved, "", 1, "RSV-o1", 300000⟩ ∧
    reservationOf (service.final (calls ++ [Sample.upsert 2 false]) ∅) "acc" "o1" =
      some ⟨"RSV-o1", "reserved", 20, 5, 300000⟩ ∧
    (serve (Sample.reserve "o1" 2 1) (service.final (calls ++ [Sample.upsert 2 false]) ∅)).1 =
      .reserveOrder .OK ⟨.rejected, "ACCOUNT_RISK_DISABLED", 2, "", 0⟩ ∧
    ((service.final (calls ++ [Sample.reserve "o2" 3 1]) ∅).lookup "acc").map
      (fun ledger => ledger.reservedNotional) = some 50 ∧
    (serve (Sample.reserve "o2" 3 300000)
      (service.final (calls ++ [Sample.reserve "o2" 3 1]) ∅)).1 =
        .reserveOrder .OK ⟨.approved, "", 1, "RSV-o2", 300001⟩ ∧
    ((service.final (calls ++ [Sample.reserve "o2" 3 1, Sample.reserve "o2" 3 300000]) ∅).lookup
      "acc").map (fun ledger => ledger.reservedNotional) = some 30 := by
  decide +kernel

/-! ## Releases -/

/-- An order without a reservation that has one after a run was approved on the way. -/
lemma approved_of_new {a orderId : String} {calls : List (Call α)} {gLedgers : Ledgers α}
    (hbefore : reservationOf gLedgers a orderId = none) {r : ReservationState α}
    (hr : reservationOf (service.final calls gLedgers) a orderId = some r) :
    ∃ event ∈ service.trace calls gLedgers,
      event.1.reserves a orderId ∧ event.2.isApproved = true := by
  obtain ⟨pre, call, post, hcalls, hnone, hsome⟩ := Machine.exists_step_of_final
    (P := fun s : Ledgers α => reservationOf s a orderId ≠ none) (by simpa using hbefore)
    (by rw [hr]; exact Option.some_ne_none r)
  obtain ⟨r', hr'⟩ := Option.ne_none_iff_exists'.mp hsome
  obtain ⟨happroved, request, hreq, haccount, horder, -⟩ :=
    new_reservation (not_not.mp hnone) hr'
  exact ⟨(call, _), (service.mem_trace_iff).mpr ⟨pre, post, hcalls, rfl⟩,
    ⟨request, hreq, haccount, horder⟩, happroved⟩

/-- A release that succeeds leaves a stored reservation without quota. -/
lemma released_of_found {call : Call α} {request : ReleaseOrderRequest}
    (hreq : call.request = .releaseOrder request) {gLedgers : Ledgers α}
    {response : ReleaseOrderResponse}
    (hreply : (serve call gLedgers).1 = .releaseOrder .OK response) {r : ReservationState α}
    (hr : reservationOf gLedgers request.accountId request.orderId = some r) :
    ∃ r', reservationOf (serve call gLedgers).2 request.accountId request.orderId = some r' ∧
      r'.status ≠ "reserved" := by
  obtain ⟨ledger, hl, hlr⟩ := reservationOf_eq_some.mp hr
  by_cases hids : request.accountId = "" ∨ request.orderId = ""
  · simp [serve, hreq, releaseOrder, hids, invalidArgument, Grpc.Status.OK] at hreply
  · simp only [serve, hreq, releaseOrder, hids, if_false, accountKey, hl, reservationOf,
      UnorderedMap.lookup_modify_self, Option.map_some, releaseInLedger, hlr, Option.bind_some]
    by_cases hs : r.status = "reserved"
    · refine ⟨{ r with status := request.reason.label }, ?_,
        ne_reserved_of_mem_terminalLabels request.reason.label_mem⟩
      simp [hs, reservations_retire, hlr]
    · exact ⟨r, by simp [hs, hlr], hs⟩

/-- **Releases under any delivery order.** Let a `ReleaseOrder` be answered `released = true`. If
the account held an entry for the order, the order is never reserved again, whatever follows. If
it held none, the order can be reserved later only through a `ReserveOrder` that arrives after
the release and is approved.

**Proof sketch.** With an entry, the release leaves it without quota, and a terminal label stays
(`reservationOf_final`). Without one, the release stores nothing, so some later call did. -/
theorem release_final (calls : List (Call α)) (call : Call α) (request : ReleaseOrderRequest)
    (hreq : call.request = .releaseOrder request)
    (hreply : (serve call (service.final calls ∅)).1 = .releaseOrder .OK { released := true })
    (later : List (Call α)) (r : ReservationState α)
    (hr : reservationOf (service.final (calls ++ call :: later) ∅) request.accountId
      request.orderId = some r) :
    (reservationOf (service.final calls ∅) request.accountId request.orderId ≠ none →
      r.status ≠ "reserved") ∧
    (r.status = "reserved" →
      ∃ event ∈ service.trace later (serve call (service.final calls ∅)).2,
        event.1.reserves request.accountId request.orderId ∧ event.2.isApproved = true) := by
  rw [Machine.final_append, Machine.final_cons] at hr
  have hfound : reservationOf (service.final calls ∅) request.accountId request.orderId ≠ none →
      r.status ≠ "reserved" := by
    intro hsome
    obtain ⟨s, hs⟩ := Option.ne_none_iff_exists'.mp hsome
    obtain ⟨t, ht, hterminal⟩ := released_of_found hreq hreply hs
    obtain ⟨t', ht', htt⟩ := reservationOf_final ht later
    obtain rfl : t' = r := Option.some.inj (ht'.symm.trans hr)
    rw [htt.terminal hterminal]
    exact hterminal
  refine ⟨hfound, fun hreserved => approved_of_new ?_ hr⟩
  by_contra hne
  obtain ⟨s, hs⟩ := Option.ne_none_iff_exists'.mp hne
  -- the release did not store the entry, and it was not there before
  have hnone : reservationOf (service.final calls ∅) request.accountId request.orderId = none := by
    by_contra hsome
    exact hfound hsome hreserved
  obtain ⟨-, request', hreq', -⟩ := new_reservation hnone hs
  rw [hreq] at hreq'
  cases hreq'

/-- A release between a `ReserveOrder` and its retry. -/
theorem release_final_sample :
    ∃ r, reservationOf (service.final ([Sample.upsert 1 true, Sample.reserve "o1" 2 0] ++
        Sample.release "o1" :: [Sample.reserve "o1" 2 0]) ∅) "acc" "o1" = some r ∧
      r.status ≠ "reserved" := by
  have hr : reservationOf (service.final ([Sample.upsert 1 true, Sample.reserve "o1" 2 0] ++
      Sample.release "o1" :: [Sample.reserve "o1" 2 0]) ∅) "acc" "o1" =
        some ⟨"RSV-o1", "released", 20, 5, 300000⟩ := by decide +kernel
  exact ⟨_, hr, (release_final [Sample.upsert 1 true, Sample.reserve "o1" 2 0]
    (Sample.release "o1") _ rfl (by decide +kernel) [Sample.reserve "o1" 2 0] _ hr).1
    (by decide +kernel)⟩

/-- A release that arrives before the `ReserveOrder` is answered `released = true`, and the
order is reserved afterwards. -/
theorem release_not_final :
    (serve (Sample.release "o1") (service.final [Sample.upsert 1 true] ∅)).1 =
      .releaseOrder .OK { released := true } ∧
    reservationOf (service.final [Sample.upsert 1 true, Sample.release "o1",
      Sample.reserve "o1" 2 0] ∅) "acc" "o1" = some ⟨"RSV-o1", "reserved", 20, 5, 300000⟩ := by
  decide +kernel

/-! ## Debits -/

/-- The order is reserved in the ledger. -/
def LedgerState.holds (l : LedgerState α) (orderId : String) : Bool :=
  (l.reservations.lookup orderId).any fun r => r.status = "reserved"

/-- The number of orders whose status in the ledger `l'` differs from that in `l`. -/
def LedgerState.statusChanges (l l' : LedgerState α) : ℕ :=
  l.reservations.keys.countP fun orderId =>
    (l.reservations.lookup orderId).map (fun r => r.status) ≠
      (l'.reservations.lookup orderId).map fun r => r.status

/-- The number of orders that have an entry in the ledger `l'` and none in `l`. -/
def LedgerState.created (l l' : LedgerState α) : ℕ :=
  l'.reservations.keys.countP fun orderId => orderId ∉ l.reservations

omit [Zero α] [Add α] [Sub α] [Mul α] [NatCast α] [LT α] [DecidableLT α] in
/-- The reserved reservations, counted by order. -/
lemma length_reserved (l : LedgerState α) :
    l.reserved.length = l.reservations.keys.countP l.holds := by
  unfold LedgerState.reserved LedgerState.holds
  rw [UnorderedMap.countP_keys, ← List.countP_eq_length_filter, List.countP_map]
  rfl

omit [Zero α] [Add α] [Sub α] [Mul α] [NatCast α] [LT α] [DecidableLT α] in
/-- If every entry that `l'` has and `l` has not is reserved, then the reserved reservations of
`l'` and the status changes together are the reserved reservations of `l` and the new entries.

**Proof sketch.** Count the orders of `l'` that are reserved there: those with an entry in `l`,
and the new ones. Count the orders of `l` that are reserved there: those still reserved in `l'`,
and those whose status changed. -/
lemma LedgerState.Continues.reserved_add_statusChanges {l l' : LedgerState α}
    (h : l.Continues l')
    (hnew : ∀ orderId r, l'.reservations.lookup orderId = some r →
      l.reservations.lookup orderId = none → r.status = "reserved") :
    l'.reserved.length + l.statusChanges l' = l.reserved.length + l.created l' := by
  have hkeys : ∀ orderId ∈ l.reservations, orderId ∈ l'.reservations := by
    intro orderId horder
    obtain ⟨r, hr⟩ := Option.isSome_iff_exists.mp (AList.lookup_isSome.mpr horder)
    obtain ⟨r', hr', -⟩ := h orderId r hr
    exact AList.lookup_isSome.mp (by rw [hr']; rfl)
  have hcreated : l'.reservations.keys.countP
      (fun orderId => l'.holds orderId && decide (orderId ∉ l.reservations)) = l.created l' := by
    apply List.countP_congr
    intro orderId horder
    obtain ⟨r, hr⟩ := Option.isSome_iff_exists.mp (AList.lookup_isSome.mpr horder)
    simp only [holds, hr, Option.any_some, Bool.and_eq_true, decide_eq_true_eq,
      and_iff_right_iff_imp]
    exact fun hfresh => hnew orderId r hr (AList.lookup_eq_none.mpr hfresh)
  have hchanged : l.reservations.keys.countP l.holds =
      l.reservations.keys.countP l'.holds + l.statusChanges l' := by
    rw [List.countP_eq_countP_filter_add _ l.holds l'.holds, List.countP_filter,
      List.countP_filter]
    congr 1
    · apply List.countP_congr
      intro orderId horder
      obtain ⟨r, hr⟩ := Option.isSome_iff_exists.mp (AList.lookup_isSome.mpr horder)
      obtain ⟨r', hr', hcont⟩ := h orderId r hr
      simp only [holds, hr, hr', Option.any_some, Bool.and_eq_true, decide_eq_true_eq,
        and_iff_right_iff_imp]
      exact hcont.reserved
    · apply List.countP_congr
      intro orderId horder
      obtain ⟨r, hr⟩ := Option.isSome_iff_exists.mp (AList.lookup_isSome.mpr horder)
      obtain ⟨r', hr', hcont⟩ := h orderId r hr
      simp only [holds, hr, hr', Option.any_some, Option.map_some, Bool.and_eq_true,
        Bool.not_eq_true', decide_eq_true_eq, decide_eq_false_iff_not, ne_eq, Option.some.injEq]
      rcases hcont.status with hs | ⟨hs, hterminal⟩
      · simp [hs]
      · have hne := ne_reserved_of_mem_terminalLabels hterminal
        simp [hs, hne, Ne.symm hne]
  rw [length_reserved, length_reserved, UnorderedMap.countP_keys_of_subset hkeys, hcreated,
    hchanged]
  omega

/-- One call debits the counter once for every status it changes, and credits it once for every
entry it stores.

**Proof sketch.** In both states the counter is the number of reserved entries, and the entries of
the first are continued in the second. -/
lemma counter_serve {gLedgers : Ledgers α} (hreach : Reachable gLedgers) {a : String}
    (call : Call α) {l l' : LedgerState α} (hl : gLedgers.lookup a = some l)
    (hl' : (serve call gLedgers).2.lookup a = some l') :
    l'.reservedOpenOrders + l.statusChanges l' = l.reservedOpenOrders + l.created l' := by
  have hstep := ledgerStep_serve a call gLedgers
  have hcont : l.Continues l' := by
    obtain ⟨l'', hl'', hcont⟩ := hstep.continues l hl
    obtain rfl : l'' = l' := Option.some.inj (hl''.symm.trans hl')
    exact hcont
  have hreach' : Reachable (serve call gLedgers).2 := hreach.final [call]
  rw [countsReserved_of_reachable hreach a l hl, countsReserved_of_reachable hreach' a l' hl']
  apply hcont.reserved_add_statusChanges
  intro orderId r hr hnew
  rw [hl, hl'] at hstep
  obtain ⟨-, request, -, -, -, rfl⟩ :=
    hstep.new_reservation (fun l₀ hl₀ => by cases hl₀; exact hnew) rfl hr
  rfl

/-! ## The history of one reservation -/

/-- A `ReserveOrder` for an order without quota is not approved: an approval would leave the
order reserved. -/
lemma not_approved_of_terminal {gLedgers : Ledgers α} {a orderId : String}
    {r : ReservationState α} (hr : reservationOf gLedgers a orderId = some r)
    (hterminal : r.status ≠ "reserved") {call : Call α} (hcall : call.reserves a orderId) :
    (serve call gLedgers).1.isApproved = false := by
  obtain ⟨request, hreq, rfl, rfl⟩ := hcall
  by_contra happroved
  obtain ⟨-, r', -, hr', hreserved, -⟩ := reserved_of_approved hreq (by simpa using happroved)
  obtain ⟨r'', hr'', hrr⟩ := reservationOf_final hr [call]
  obtain rfl : r'' = r' := Option.some.inj (hr''.symm.trans hr')
  exact hterminal (hrr.reserved hreserved)

/-- Every stored reservation is reserved or carries a terminal label.

**Proof sketch.** Along the run: a new entry is reserved, and an old one keeps its status or takes a
terminal label. -/
lemma status_of_reachable {gLedgers : Ledgers α} (hreach : Reachable gLedgers)
    {a orderId : String} {r : ReservationState α}
    (hr : reservationOf gLedgers a orderId = some r) :
    r.status = "reserved" ∨ r.status ∈ terminalLabels := by
  refine hreach.invariant (I := fun s : Ledgers α => ∀ r, reservationOf s a orderId = some r →
    r.status = "reserved" ∨ r.status ∈ terminalLabels) (fun call s ih r' hr' => ?_)
    (by simp [reservationOf]) r hr
  cases hold : reservationOf s a orderId with
  | none =>
    obtain ⟨-, request, -, -, -, rfl⟩ := new_reservation hold hr'
    exact .inl rfl
  | some r =>
    obtain ⟨r'', hr'', hrr⟩ := reservationOf_final hold [call]
    obtain rfl : r'' = r' := Option.some.inj (hr''.symm.trans hr')
    rcases hrr.status with hs | ⟨-, hs⟩
    · rw [hs]
      exact ih r hold
    · exact .inr hs

/-- **Lifecycle.** Take any reachable state and an order with an entry in it. The entry is
reserved or has a terminal label. After any further calls it is still there, with the same
identifier, amounts and deadline, and its status is as it was or went from `reserved` to a
terminal label. Once it is not reserved, no `ReserveOrder` for the order is approved any more.
And every call debits the counter of the account exactly once for each status it changes.

**Proof sketch.** Entries are continued by every call, so a status changes at most once, from
`reserved` to a terminal label, and a terminal one is final. The counter is the number of reserved
entries in every reachable state. -/
theorem reservation_lifecycle (calls : List (Call α)) (a orderId : String)
    (r : ReservationState α) (hr : reservationOf (service.final calls ∅) a orderId = some r) :
    (r.status = "reserved" ∨ r.status ∈ terminalLabels) ∧
    (∀ later : List (Call α), ∃ r',
      reservationOf (service.final (calls ++ later) ∅) a orderId = some r' ∧ r.Continues r') ∧
    (r.status ≠ "reserved" → ∀ later : List (Call α),
      ∀ event ∈ service.trace later (service.final calls ∅),
        event.1.reserves a orderId → event.2.isApproved = false) ∧
    (∀ call l l', (service.final calls ∅).lookup a = some l →
      (serve call (service.final calls ∅)).2.lookup a = some l' →
      l'.reservedOpenOrders + l.statusChanges l' = l.reservedOpenOrders + l.created l') := by
  have hreach := reachable_final calls
  refine ⟨status_of_reachable hreach hr, fun later => ?_, fun hterminal later event hevent => ?_,
    fun call l l' hl hl' => counter_serve hreach call hl hl'⟩
  · rw [Machine.final_append]
    exact reservationOf_final hr later
  · obtain ⟨pre, post, -, hreply⟩ := (service.mem_trace_iff).mp hevent
    obtain ⟨r', hr', hrr⟩ := reservationOf_final hr pre
    rw [hreply]
    refine not_approved_of_terminal hr' ?_
    rw [hrr.terminal hterminal]
    exact hterminal

/-- The history of an order that is reserved and then released. -/
theorem reservation_lifecycle_sample :
    ∃ r', reservationOf (service.final ([Sample.upsert 1 true, Sample.reserve "o1" 2 0] ++
        [Sample.release "o1", Sample.reserve "o1" 2 1]) ∅) "acc" "o1" = some r' ∧
      ReservationState.Continues (⟨"RSV-o1", "reserved", 20, 5, 300000⟩ : ReservationState ℚ) r' :=
  (reservation_lifecycle [Sample.upsert 1 true, Sample.reserve "o1" 2 0] "acc" "o1" _
    (by decide +kernel)).2.1 [Sample.release "o1", Sample.reserve "o1" 2 1]

end Service

end AccountRisk
