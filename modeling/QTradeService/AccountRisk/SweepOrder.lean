import QTradeService.AccountRisk.Conservation

set_option relaxedAutoImplicit false
set_option autoImplicit false

/-!
# The sweep is independent of its order and composes

`ExpireReservations` interleaves clamped subtractions and a guarded decrement over a map without
a defined order. On a ledger whose amounts are nonnegative and whose totals are right, none of
the clamps and guards ever takes effect, at any turn of the loop. The totals after the sweep are
then sums over the reservations after the sweep, and these are the simultaneous update of
`QTradeService.AccountRisk.Sweep`: the order of the visits is forgotten, and a sweep after a
sweep is one sweep at the later of the two times.

## Main definitions

* `AccountRisk.LedgerState.Exact` — no negative amount, and all three totals right.

## Main results

* `AccountRisk.LedgerState.Exact.ext` — an exact ledger is determined by its policy and its
  reservations.
* `AccountRisk.LedgerState.Exact.debit` — a debit of an exact ledger meets no clamp and no guard.
* `AccountRisk.sweep_composes` — order independence, composition, and exactness of every turn.
-/

namespace AccountRisk

/-! ## Exact ledgers -/

/-- No stored amount is negative, and the three cached totals are right. -/
structure LedgerState.Exact (ledger : LedgerState ℚ) : Prop where
  nonneg : ledger.Nonneg
  counts : ledger.CountsReserved
  sums : ledger.SumsReserved

/-- The totals of an exact ledger are functions of its reservations, so that its policy and its
reservations determine it. -/
lemma LedgerState.Exact.ext {l l' : LedgerState ℚ} (h : l.Exact) (h' : l'.Exact)
    (hpolicy : l.policy = l'.policy) (hreservations : l.reservations = l'.reservations) :
    l = l' := by
  have hreserved : l.reserved = l'.reserved := by
    unfold LedgerState.reserved
    rw [hreservations]
  have hnotional : l.reservedNotional = l'.reservedNotional := by
    rw [h.sums.1, h'.sums.1, hreserved]
  have hmargin : l.reservedMargin = l'.reservedMargin := by
    rw [h.sums.2, h'.sums.2, hreserved]
  have hcount : l.reservedOpenOrders = l'.reservedOpenOrders := by
    rw [h.counts, h'.counts, hreserved]
  cases l
  cases l'
  simp_all only

/-- A debit of a reserved reservation meets neither a clamp nor the guard of the counter.

**Proof sketch.** Each cached total is a sum over the reserved ones with no negative term, so that
it is no smaller than the term which is debited, and the counter is not zero. -/
lemma LedgerState.Exact.debit {ledger : LedgerState ℚ} (h : ledger.Exact) {orderId : String}
    {r : ReservationState ℚ} (hl : ledger.reservations.lookup orderId = some r)
    (hr : r.status = "reserved") :
    0 ≤ ledger.reservedNotional - r.notional ∧ 0 ≤ ledger.reservedMargin - r.margin ∧
      ledger.reservedOpenOrders > 0 := by
  have hnotional : r.notional ≤ ledger.reservedNotional := by
    rw [h.sums.1]
    exact le_sum_reserved (fun k s hs => (h.nonneg k s hs).1) hl hr
  have hmargin : r.margin ≤ ledger.reservedMargin := by
    rw [h.sums.2]
    exact le_sum_reserved (fun k s hs => (h.nonneg k s hs).2) hl hr
  have hlen : (ledger.retire orderId r "expired").reserved.length + 1 = ledger.reserved.length :=
    length_reserved_retire hl hr (by decide)
  have hcount : ledger.reservedOpenOrders > 0 := by
    rw [h.counts]
    omega
  exact ⟨sub_nonneg.mpr hnotional, sub_nonneg.mpr hmargin, hcount⟩

/-- Expiring a reserved reservation keeps a ledger exact.

**Proof sketch.** Retiring keeps the counter and the sums right, and changes only the label of the
entry, so that its amounts stay as they were. -/
lemma LedgerState.Exact.retire {ledger : LedgerState ℚ} (h : ledger.Exact) {orderId : String}
    {r : ReservationState ℚ} (hl : ledger.reservations.lookup orderId = some r)
    (hr : r.status = "reserved") : (ledger.retire orderId r "expired").Exact := by
  have hnonneg : (ledger.retire orderId r "expired").Nonneg := by
    intro k s hs
    rw [reservations_retire] at hs
    by_cases hk : k = orderId
    · subst hk
      rw [UnorderedMap.lookup_modify_self, hl] at hs
      cases hs
      exact h.nonneg k r hl
    · rw [UnorderedMap.lookup_modify_of_ne hk] at hs
      exact h.nonneg k s hs
  exact ⟨hnonneg, retire_countsReserved hl hr (by decide) h.counts,
    retire_sumsReserved hl hr (by decide) (fun _ => h.sums) hnonneg⟩

/-- One turn of the loop keeps a ledger exact. -/
lemma LedgerState.Exact.expireReservation {ledger : LedgerState ℚ} (h : ledger.Exact) (now : ℤ)
    (orderId : String) : (expireReservation now ledger orderId).Exact := by
  unfold AccountRisk.expireReservation
  cases hl : ledger.reservations.lookup orderId with
  | none => exact h
  | some r =>
    simp only
    split_ifs with hlapsed
    · exact h.retire hl hlapsed.1
    · exact h

/-- Any number of turns of the loop keep a ledger exact. -/
lemma LedgerState.Exact.foldl {now : ℤ} (visits : List String) :
    ∀ {ledger : LedgerState ℚ}, ledger.Exact →
      (visits.foldl (AccountRisk.expireReservation now) ledger).Exact := by
  induction visits with
  | nil => exact fun h => h
  | cons orderId visits ih => exact fun h => ih (h.expireReservation now orderId)

/-- The sweep keeps a ledger exact. -/
lemma LedgerState.Exact.expireReservations {ledger : LedgerState ℚ} (h : ledger.Exact)
    (order : IterationOrder String) (now : ℤ) : (expireReservations order ledger now).Exact :=
  LedgerState.Exact.foldl _ h

/-! ## The sweep as a function of the time alone -/

/-- The order in which the loop meets the reservations does not matter. -/
lemma LedgerState.Exact.expireReservations_order {ledger : LedgerState ℚ} (h : ledger.Exact)
    (o o' : IterationOrder String) (now : ℤ) :
    AccountRisk.expireReservations o ledger now = AccountRisk.expireReservations o' ledger now := by
  apply (h.expireReservations o now).ext (h.expireReservations o' now)
  · rw [policy_expireReservations, policy_expireReservations]
  · rw [reservations_expireReservations, reservations_expireReservations]

/-- Two sweeps in a row are one, in whatever orders the three loops meet the reservations. -/
lemma LedgerState.Exact.expireReservations_twice {ledger : LedgerState ℚ} (h : ledger.Exact)
    (o₁ o₂ o : IterationOrder String) (t₁ t₂ : ℤ) :
    AccountRisk.expireReservations o₂ (AccountRisk.expireReservations o₁ ledger t₁) t₂ =
      AccountRisk.expireReservations o ledger (max t₁ t₂) := by
  apply ((h.expireReservations o₁ t₁).expireReservations o₂ t₂).ext
    (h.expireReservations o (max t₁ t₂))
  · rw [policy_expireReservations, policy_expireReservations, policy_expireReservations]
  · rw [reservations_expireReservations_twice, reservations_expireReservations]

/-- **The sweep is independent of its order and composes.** Let no stored amount of a ledger be
negative, and let its three totals be the count and the sums over the reserved reservations.
Then the sweep has the same result for all orders of its loop; a sweep at `t₁` followed by one
at `t₂` is one sweep at `max t₁ t₂`, so that repeating a sweep changes nothing and two sweeps
may be exchanged; and at every turn of the loop that retires a reservation, both clamped
differences are nonnegative and the guarded counter is positive.

**Proof sketch.** Each turn keeps the ledger exact, which gives the last part. An exact ledger
is determined by its reservations, and the reservations after a sweep do not depend on the
order. -/
theorem sweep_composes (ledger : LedgerState ℚ) (hnonneg : ledger.Nonneg)
    (hcount : ledger.reservedOpenOrders = ledger.reserved.length)
    (hnotional : ledger.reservedNotional = (ledger.reserved.map fun r => r.notional).sum)
    (hmargin : ledger.reservedMargin = (ledger.reserved.map fun r => r.margin).sum) :
    (∀ o o' t, expireReservations o ledger t = expireReservations o' ledger t) ∧
    (∀ o₁ o₂ o t₁ t₂, expireReservations o₂ (expireReservations o₁ ledger t₁) t₂ =
      expireReservations o ledger (max t₁ t₂)) ∧
    (∀ o₁ o₂ o t, expireReservations o₂ (expireReservations o₁ ledger t) t =
      expireReservations o ledger t) ∧
    (∀ o₁ o₂ o₃ o₄ t₁ t₂, expireReservations o₂ (expireReservations o₁ ledger t₁) t₂ =
      expireReservations o₄ (expireReservations o₃ ledger t₂) t₁) ∧
    ∀ (o : IterationOrder String) (t : ℤ) (before after : List String) (orderId : String)
      (r : ReservationState ℚ),
      o.visit ledger.reservations.keys = before ++ orderId :: after →
      (before.foldl (expireReservation t) ledger).reservations.lookup orderId = some r →
      r.lapsed t →
      0 ≤ (before.foldl (expireReservation t) ledger).reservedNotional - r.notional ∧
      0 ≤ (before.foldl (expireReservation t) ledger).reservedMargin - r.margin ∧
      (before.foldl (expireReservation t) ledger).reservedOpenOrders > 0 := by
  have h : ledger.Exact := ⟨hnonneg, hcount, hnotional, hmargin⟩
  refine ⟨h.expireReservations_order, h.expireReservations_twice, ?_, ?_, ?_⟩
  · intro o₁ o₂ o t
    rw [h.expireReservations_twice o₁ o₂ o, max_self]
  · intro o₁ o₂ o₃ o₄ t₁ t₂
    rw [h.expireReservations_twice o₁ o₂ o₁, h.expireReservations_twice o₃ o₄ o₁, max_comm]
  · intro o t before after orderId r _ hl hlapsed
    exact (LedgerState.Exact.foldl before h).debit hl hlapsed.1

/-- Two reserved orders, of which the first has lapsed at `300000` and both have at `300001`. -/
theorem sweep_composes_sample :
    ∃ ledger : LedgerState ℚ,
      (service.final [Sample.upsert 1 true, Sample.reserve "o1" 2 0, Sample.reserve "o2" 3 1]
        ∅).lookup "acc" = some ledger ∧
      ledger.Nonneg ∧ ledger.reservedNotional = 50 ∧
      (∀ o₁ o₂ o, expireReservations o₂ (expireReservations o₁ ledger 300001) 300000 =
        expireReservations o ledger 300001) ∧
      (expireReservations .stored ledger 300000).reservedNotional = 30 ∧
      (expireReservations .stored ledger 300001).reservedNotional = 0 := by
  obtain ⟨ledger, hl⟩ : ∃ ledger : LedgerState ℚ,
      (service.final [Sample.upsert 1 true, Sample.reserve "o1" 2 0, Sample.reserve "o2" 3 1]
        ∅).lookup "acc" = some ledger := ⟨_, rfl⟩
  have hrun := (Option.some.inj hl).symm
  have ⟨hnonneg, hcount, hnotional, hmargin, hfifty⟩ : ledger.Nonneg ∧
      ledger.reservedOpenOrders = ledger.reserved.length ∧
      ledger.reservedNotional = (ledger.reserved.map fun r => r.notional).sum ∧
      ledger.reservedMargin = (ledger.reserved.map fun r => r.margin).sum ∧
      ledger.reservedNotional = 50 := by
    subst hrun
    decide +kernel
  have ⟨hthirty, hzero⟩ : (expireReservations .stored ledger 300000).reservedNotional = 30 ∧
      (expireReservations .stored ledger 300001).reservedNotional = 0 := by
    subst hrun
    decide +kernel
  have h := (sweep_composes ledger hnonneg hcount hnotional hmargin).2.1
  exact ⟨ledger, hl, hnonneg, hfifty, fun o₁ o₂ o => h o₁ o₂ o 300001 300000, hthirty, hzero⟩

end AccountRisk
