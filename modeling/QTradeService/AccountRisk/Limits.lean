import QTradeService.AccountRisk.Conservation

set_option relaxedAutoImplicit false
set_option autoImplicit false

/-!
# Hard limits

`ReserveOrder` compares the cached totals with the limits of the policy. What matters is the
set of reservations that hold quota: right after an approval, and from then on until the policy
is replaced, the reserved reservations of the account stay within every limit that is set.

## Main definitions

* `AccountRisk.LedgerState.WithinLimits` — the reserved reservations respect the policy.
* `AccountRisk.upsertsPolicy` — an upsert of the account that was answered with `OK`.

## Main results

* `AccountRisk.book_withinLimits`, `AccountRisk.retire_withinLimits` — a credit, a debit.
* `AccountRisk.hard_limits` — the limits hold from an approval to the next upsert.
-/

namespace AccountRisk

/-- The reserved reservations respect every limit of the stored policy that is not zero. -/
structure LedgerState.WithinLimits (ledger : LedgerState ℚ) : Prop where
  notional : 0 < ledger.policy.maxNotional →
    (ledger.reserved.map fun r => r.notional).sum ≤
      ledger.policy.maxNotional - ledger.policy.safetyBuffer
  margin : 0 < ledger.policy.maxMargin →
    (ledger.reserved.map fun r => r.margin).sum ≤
      ledger.policy.maxMargin - ledger.policy.safetyBuffer
  openOrders : 0 < ledger.policy.maxOpenOrders →
    ledger.reserved.length ≤ ledger.policy.maxOpenOrders

/-- An upsert of the policy of the account `a` that was answered with `OK`. -/
def upsertsPolicy {α : Type} (a : String) (call : Call α) (reply : Reply α) : Bool :=
  match call.request, reply with
  | .upsertAccountRiskPolicy request, .upsertAccountRiskPolicy status =>
    request.policy.accountId = a && status = .OK
  | _, _ => false

/-- The upserts of the account `a` that succeed. -/
lemma upsertsPolicy_iff {α : Type} {a : String} {call : Call α} {reply : Reply α} :
    upsertsPolicy a call reply = true ↔ ∃ request,
      call.request = .upsertAccountRiskPolicy request ∧ request.policy.accountId = a ∧
        reply = .upsertAccountRiskPolicy .OK := by
  unfold upsertsPolicy
  cases call.request <;> cases reply <;> simp

/-! ## Credits and debits -/

/-- A quantity that exceeds no limit, read off `exceeded`. -/
lemma not_exceeded {ledger : LedgerState ℚ} {notional margin : ℚ}
    (h : ledger.exceeded notional margin = none) :
    (0 < ledger.policy.maxNotional → ledger.reservedNotional + notional ≤
      ledger.policy.maxNotional - ledger.policy.safetyBuffer) ∧
    (0 < ledger.policy.maxMargin → ledger.reservedMargin + margin ≤
      ledger.policy.maxMargin - ledger.policy.safetyBuffer) ∧
    (0 < ledger.policy.maxOpenOrders →
      ledger.reservedOpenOrders + 1 ≤ ledger.policy.maxOpenOrders) := by
  unfold LedgerState.exceeded at h
  split_ifs at h with hn hm ho
  refine ⟨fun hpos => ?_, fun hpos => ?_, fun hpos => ?_⟩
  · exact not_lt.mp fun hlt => hn ⟨hpos, hlt⟩
  · exact not_lt.mp fun hlt => hm ⟨hpos, hlt⟩
  · exact not_lt.mp fun hlt => ho ⟨hpos, hlt⟩

/-- Booking an order that exceeds no limit of a ledger with right totals leads within the
limits. -/
lemma book_withinLimits {ledger : LedgerState ℚ} {orderId : String}
    (hl : ledger.reservations.lookup orderId = none) {r : ReservationState ℚ}
    (hr : r.status = "reserved") (hcounts : ledger.CountsReserved) (hsums : ledger.SumsReserved)
    (hfits : ledger.exceeded r.notional r.margin = none) :
    (ledger.book orderId r).WithinLimits := by
  obtain ⟨hnotional, hmargin, horders⟩ := not_exceeded hfits
  refine ⟨fun hpos => ?_, fun hpos => ?_, fun hpos => ?_⟩
  · rw [sum_reserved_book (fun r => r.notional) hl hr, ← hsums.1, add_comm]
    exact hnotional hpos
  · rw [sum_reserved_book (fun r => r.margin) hl hr, ← hsums.2, add_comm]
    exact hmargin hpos
  · rw [length_reserved_book hl hr, ← hcounts, add_comm]
    exact horders hpos

/-- Retiring a reservation with nonnegative amounts stays within the limits.

**Proof sketch.** The amounts of the retired reservation leave the sums, which do not grow since
they are not negative. -/
lemma retire_withinLimits {ledger : LedgerState ℚ} {orderId : String} {r : ReservationState ℚ}
    (hl : ledger.reservations.lookup orderId = some r) (hr : r.status = "reserved")
    {status : String} (hstatus : status ∈ terminalLabels) (hnonneg : ledger.Nonneg)
    (h : ledger.WithinLimits) : (ledger.retire orderId r status).WithinLimits := by
  obtain ⟨hrn, hrm⟩ := hnonneg orderId r hl
  have hnotional := sum_reserved_retire (fun r => r.notional) hl hr hstatus
  have hmargin := sum_reserved_retire (fun r => r.margin) hl hr hstatus
  have hlen := length_reserved_retire hl hr hstatus
  refine ⟨fun hpos => ?_, fun hpos => ?_, fun hpos => ?_⟩
  · have := h.notional hpos
    show _ ≤ ledger.policy.maxNotional - ledger.policy.safetyBuffer
    linarith
  · have := h.margin hpos
    show _ ≤ ledger.policy.maxMargin - ledger.policy.safetyBuffer
    linarith
  · have := h.openOrders hpos
    show _ ≤ ledger.policy.maxOpenOrders
    omega

/-- The sweep of a ledger without negative amounts stays within the limits. -/
lemma expireReservations_withinLimits (order : IterationOrder String) {ledger : LedgerState ℚ}
    (now : ℤ) (h : ledger.Nonneg → ledger.WithinLimits) :
    (expireReservations order ledger now).Nonneg →
      (expireReservations order ledger now).WithinLimits := by
  refine expireReservations_induction (I := fun l => l.Nonneg → l.WithinLimits)
    (fun l orderId r hl hr h hnonneg' => ?_) order ledger now h
  have hnonneg := (LedgerState.continues_retire hl hr (by decide)).nonneg hnonneg'
  exact retire_withinLimits hl hr (by decide) hnonneg (h hnonneg)

/-! ## Runs -/

/-- The totals of the ledger are right, and it is within the limits if no amount is negative. -/
structure LedgerState.Limited (ledger : LedgerState ℚ) : Prop where
  conserved : ledger.Conserved
  within : ledger.Nonneg → ledger.WithinLimits

/-- A ledger stays limited across a call that does not replace its policy.

**Proof sketch.** By cases on the step. Retiring reservations stays within the limits, a booking
compares with them, and an upsert is excluded. -/
lemma LedgerStep.limited {a : String} {call : Call ℚ} {reply : Reply ℚ}
    {entry entry' : Option (LedgerState ℚ)} (h : LedgerStep a call reply entry entry')
    (hkeep : upsertsPolicy a call reply = false) (hinv : ∀ l, entry = some l → l.Limited) :
    ∀ l, entry' = some l → l.Limited := by
  intro l hl
  refine ⟨h.conserved (fun l hl => (hinv l hl).conserved) l hl, ?_⟩
  cases h with
  | idle => exact (hinv l hl).within
  | sweep reply ledger =>
    cases hl
    exact expireReservations_withinLimits _ _ (hinv ledger rfl).within
  | book ledger request isReserve account gate new fits =>
    cases hl
    intro hnonneg
    have hswept := (hinv ledger rfl).conserved.expireReservations call.order call.now
    have hnonneg' := (LedgerState.continues_book new _).nonneg hnonneg
    exact book_withinLimits new rfl hswept.counts (hswept.sums hnonneg') fits
  | release ledger request isRelease account reservation found reserved =>
    cases hl
    intro hnonneg'
    have hlabel := request.reason.label_mem
    have hnonneg := (LedgerState.continues_retire found reserved hlabel).nonneg hnonneg'
    exact retire_withinLimits found reserved hlabel hnonneg ((hinv ledger rfl).within hnonneg)
  | create request isUpsert account =>
    rw [upsertsPolicy_iff.mpr ⟨request, isUpsert, account, rfl⟩] at hkeep
    cases hkeep
  | upsert ledger request isUpsert account =>
    rw [upsertsPolicy_iff.mpr ⟨request, isUpsert, account, rfl⟩] at hkeep
    cases hkeep

/-- The ledger that a newly approved order leaves is limited. -/
lemma limited_of_approved {gLedgers : Ledgers ℚ} (hreach : Reachable gLedgers) {call : Call ℚ}
    {request : ReserveOrderRequest ℚ} (hreq : call.request = .reserveOrder request)
    (hnew : ∀ l, gLedgers.lookup request.accountId = some l →
      l.reservations.lookup request.intent.orderId = none)
    (happroved : (serve call gLedgers).1.isApproved = true) (l : LedgerState ℚ)
    (hl : (serve call gLedgers).2.lookup request.accountId = some l) : l.Limited := by
  obtain ⟨ledger, hledger, -⟩ := reserveOrder_approved hreq happroved
  obtain ⟨-, hfits, hafter⟩ := booked_of_approved hreq happroved hledger (hnew ledger hledger)
  obtain rfl := Option.some.inj (hafter.symm.trans hl)
  have hswept := (conserved_of_reachable hreach hledger).expireReservations call.order call.now
  have hnone : (expireReservations call.order ledger call.now).reservations.lookup
      request.intent.orderId = none := by simp [hnew ledger hledger]
  refine ⟨hswept.book hnone rfl, fun hnonneg => ?_⟩
  have hnonneg' := (LedgerState.continues_book hnone _).nonneg hnonneg
  exact book_withinLimits hnone rfl hswept.counts (hswept.sums hnonneg') hfits

/-- A newly approved order is stored as reserved, with the amounts of its request. -/
lemma reservationOf_of_approved {gLedgers : Ledgers ℚ} {call : Call ℚ}
    {request : ReserveOrderRequest ℚ} (hreq : call.request = .reserveOrder request)
    (hnew : ∀ l, gLedgers.lookup request.accountId = some l →
      l.reservations.lookup request.intent.orderId = none)
    (happroved : (serve call gLedgers).1.isApproved = true) :
    reservationOf (serve call gLedgers).2 request.accountId request.intent.orderId =
      some (request.reservation call.now) := by
  obtain ⟨ledger, hledger, -⟩ := reserveOrder_approved hreq happroved
  obtain ⟨-, -, hafter⟩ := booked_of_approved hreq happroved hledger (hnew ledger hledger)
  have hnone : (expireReservations call.order ledger call.now).reservations.lookup
      request.intent.orderId = none := by simp [hnew ledger hledger]
  refine reservationOf_eq_some.mpr ⟨_, hafter, ?_⟩
  rw [LedgerState.lookup_book hnone, if_pos rfl]

/-- **Hard-limit safety.** Let a run approve an order that had no entry before. Then the order is
stored as reserved, with the amounts of its request, and the reservations of the account that are
reserved, the new one included, stay within every limit of the stored policy that is not zero,
right after the approval and after any further calls, as long as no upsert of that account
succeeds and no approved reservation carries a negative amount.

**Proof sketch.** The approval compares the cached totals with the limits, and the cached totals
are the totals of the reserved reservations (`conserved_of_reachable`). Later debits only lower
them, and a later approval compares again, with the same policy. -/
theorem hard_limits (calls : List (Call ℚ)) (call : Call ℚ) (request : ReserveOrderRequest ℚ)
    (hreq : call.request = .reserveOrder request)
    (hnew : ∀ l, (service.final calls ∅).lookup request.accountId = some l →
      l.reservations.lookup request.intent.orderId = none)
    (happroved : (serve call (service.final calls ∅)).1.isApproved = true)
    (later : List (Call ℚ))
    (hkeep : ∀ event ∈ service.trace later (serve call (service.final calls ∅)).2,
      upsertsPolicy request.accountId event.1 event.2 = false)
    (ledger : LedgerState ℚ)
    (hl : (service.final (calls ++ call :: later) ∅).lookup request.accountId = some ledger)
    (hnonneg : ledger.Nonneg) :
    (∃ r, reservationOf (serve call (service.final calls ∅)).2 request.accountId
        request.intent.orderId = some r ∧ r.status = "reserved" ∧
      r.notional = request.intent.notional ∧ r.margin = request.intent.estimatedMargin) ∧
    (0 < ledger.policy.maxNotional →
      (ledger.reserved.map fun r => r.notional).sum ≤
        ledger.policy.maxNotional - ledger.policy.safetyBuffer) ∧
    (0 < ledger.policy.maxMargin →
      (ledger.reserved.map fun r => r.margin).sum ≤
        ledger.policy.maxMargin - ledger.policy.safetyBuffer) ∧
    (0 < ledger.policy.maxOpenOrders →
      ledger.reserved.length ≤ ledger.policy.maxOpenOrders) := by
  have hstored := reservationOf_of_approved hreq hnew happroved
  have hbooked := limited_of_approved (reachable_final calls) hreq hnew happroved
  rw [Machine.final_append, Machine.final_cons] at hl
  have hlimited : ledger.Limited :=
    Machine.final_invariant_of_trace
      (I := fun s : Ledgers ℚ => ∀ l, s.lookup request.accountId = some l → l.Limited)
      (p := fun call reply => upsertsPolicy request.accountId call reply = false)
      (fun call s hs hkeep => (ledgerStep_serve _ call s).limited hkeep hs) hkeep hbooked ledger hl
  have hwithin := hlimited.within hnonneg
  exact ⟨⟨_, hstored, rfl, rfl, rfl⟩, hwithin.notional, hwithin.margin, hwithin.openOrders⟩

/-- An approval, followed by another one and a release, under a limit of 100. -/
theorem hard_limits_sample :
    (∃ r, reservationOf (serve (Sample.reserve "o1" 2 0)
        (service.final [Sample.upsert 1 true] ∅)).2 "acc" "o1" = some r ∧
      r.status = "reserved" ∧ r.notional = 20 ∧ r.margin = 5) ∧
    ∃ ledger : LedgerState ℚ,
      (service.final ([Sample.upsert 1 true] ++ Sample.reserve "o1" 2 0 ::
        [Sample.reserve "o2" 7 1, Sample.release "o1"]) ∅).lookup "acc" = some ledger ∧
      (0 < ledger.policy.maxNotional →
        (ledger.reserved.map fun r => r.notional).sum ≤
          ledger.policy.maxNotional - ledger.policy.safetyBuffer) ∧
      (0 < ledger.policy.maxMargin →
        (ledger.reserved.map fun r => r.margin).sum ≤
          ledger.policy.maxMargin - ledger.policy.safetyBuffer) ∧
      (0 < ledger.policy.maxOpenOrders →
        ledger.reserved.length ≤ ledger.policy.maxOpenOrders) := by
  obtain ⟨ledger, hl, hnonneg⟩ : ∃ ledger : LedgerState ℚ,
      (service.final ([Sample.upsert 1 true] ++ Sample.reserve "o1" 2 0 ::
        [Sample.reserve "o2" 7 1, Sample.release "o1"]) ∅).lookup "acc" = some ledger ∧
      ledger.Nonneg := ⟨_, rfl, by decide +kernel⟩
  have hlimits := hard_limits [Sample.upsert 1 true] (Sample.reserve "o1" 2 0) _ rfl
    (fun l hl' => by obtain rfl := Option.some.inj hl'; rfl) (by decide +kernel)
    [Sample.reserve "o2" 7 1, Sample.release "o1"] (by decide +kernel) ledger hl hnonneg
  obtain ⟨⟨r, hr, hreserved, hnotional, hmargin⟩, hwithin⟩ := hlimits
  exact ⟨⟨r, hr, hreserved, hnotional.trans (by decide +kernel), hmargin.trans (by decide +kernel)⟩,
    ledger, hl, hwithin⟩

end AccountRisk
