import QTradeService.AccountRisk.Service

set_option relaxedAutoImplicit false
set_option autoImplicit false

/-!
# What the sweep does to the reservations

`ExpireReservations` gives the label `expired` to every reservation that has lapsed and keeps
everything else about the reservations, in whatever order it meets them. This part of the sweep
needs no arithmetic; the cached totals are the subject of
`QTradeService.AccountRisk.Conservation`.

## Main definitions

* `AccountRisk.ReservationState.expire` — what the sweep does to one reservation.
* `AccountRisk.ReservationState.activeAt` — a reservation that the sweep leaves reserved.

## Main results

* `AccountRisk.reservations_expireReservations` — the sweep as one simultaneous update.
* `AccountRisk.lookup_expireReservations` — the entry of an order after the sweep.
* `AccountRisk.reservations_expireReservations_twice` — two sweeps are one at the later time.
* `AccountRisk.expireReservations_eq_self`, `AccountRisk.expireReservations_eq_retire` — a sweep
  that meets no lapsed reservation, or one.
* `AccountRisk.booked_of_approved` — a new order that is approved is booked on the swept ledger.
-/

namespace AccountRisk

variable {α : Type}

/-- What the sweep at `now` does to one reservation. -/
def ReservationState.expire (reservation : ReservationState α) (now : ℤ) : ReservationState α :=
  if reservation.lapsed now then { reservation with status := "expired" } else reservation

/-- A reservation is active at `now`: reserved and not past its deadline. -/
def ReservationState.activeAt (reservation : ReservationState α) (now : ℤ) : Prop :=
  reservation.status = "reserved" ∧ now < reservation.expiresAtUnixMs

/-- The sweep gives a lapsed reservation the label `expired`. -/
lemma ReservationState.expire_of_lapsed {reservation : ReservationState α} {now : ℤ}
    (h : reservation.lapsed now) :
    reservation.expire now = { reservation with status := "expired" } :=
  if_pos h

/-- The sweep keeps an active reservation as it is. -/
lemma ReservationState.expire_of_activeAt {reservation : ReservationState α} {now : ℤ}
    (h : reservation.activeAt now) : reservation.expire now = reservation :=
  if_neg fun hl => not_lt.mpr hl.2 h.2

/-- A reservation that is not reserved is not touched by the sweep. -/
lemma ReservationState.expire_of_ne {reservation : ReservationState α} {now : ℤ}
    (h : reservation.status ≠ "reserved") : reservation.expire now = reservation :=
  if_neg fun hl => h hl.1

/-- After the sweep, a reservation is reserved exactly if it was active. -/
lemma ReservationState.status_expire {reservation : ReservationState α} {now : ℤ} :
    (reservation.expire now).status = "reserved" ↔ reservation.activeAt now := by
  by_cases hs : reservation.status = "reserved"
  · rcases lt_or_ge now reservation.expiresAtUnixMs with hlt | hle
    · simp [expire_of_activeAt ⟨hs, hlt⟩, activeAt, hs, hlt]
    · simp [expire_of_lapsed ⟨hs, hle⟩, activeAt, hle]
  · simp [expire_of_ne hs, activeAt, hs]

/-- The sweep keeps the identifier of a reservation. -/
@[simp] lemma ReservationState.reservationId_expire (reservation : ReservationState α) (now : ℤ) :
    (reservation.expire now).reservationId = reservation.reservationId := by
  unfold expire; split_ifs <;> rfl

/-- The sweep keeps the notional of a reservation. -/
@[simp] lemma ReservationState.notional_expire (reservation : ReservationState α) (now : ℤ) :
    (reservation.expire now).notional = reservation.notional := by
  unfold expire; split_ifs <;> rfl

/-- The sweep keeps the margin of a reservation. -/
@[simp] lemma ReservationState.margin_expire (reservation : ReservationState α) (now : ℤ) :
    (reservation.expire now).margin = reservation.margin := by
  unfold expire; split_ifs <;> rfl

/-- The sweep keeps the deadline of a reservation. -/
@[simp] lemma ReservationState.expiresAtUnixMs_expire (reservation : ReservationState α)
    (now : ℤ) : (reservation.expire now).expiresAtUnixMs = reservation.expiresAtUnixMs := by
  unfold expire; split_ifs <;> rfl

/-- A reservation swept at `t₁` and then at `t₂` is one swept at the later of the two.

**Proof sketch.** Only a reserved one changes, and it lapses at the later time if and only if it
lapses at one of the two. -/
lemma ReservationState.expire_expire (r : ReservationState α) (t₁ t₂ : ℤ) :
    (r.expire t₁).expire t₂ = r.expire (max t₁ t₂) := by
  by_cases hs : r.status = "reserved"
  · by_cases h₁ : r.expiresAtUnixMs ≤ t₁
    · have hmax : r.expiresAtUnixMs ≤ max t₁ t₂ := le_trans h₁ (le_max_left _ _)
      rw [expire_of_lapsed ⟨hs, h₁⟩, expire_of_lapsed ⟨hs, hmax⟩]
      have hne : "expired" ≠ "reserved" := by decide
      -- the label `expired` is final
      exact expire_of_ne hne
    · have h₁' : r.activeAt t₁ := ⟨hs, not_le.mp h₁⟩
      rw [expire_of_activeAt h₁']
      by_cases h₂ : r.expiresAtUnixMs ≤ t₂
      · have hmax : r.expiresAtUnixMs ≤ max t₁ t₂ := le_trans h₂ (le_max_right _ _)
        rw [expire_of_lapsed ⟨hs, h₂⟩, expire_of_lapsed ⟨hs, hmax⟩]
      · have hmax : max t₁ t₂ < r.expiresAtUnixMs := max_lt (not_le.mp h₁) (not_le.mp h₂)
        rw [expire_of_activeAt ⟨hs, not_le.mp h₂⟩, expire_of_activeAt ⟨hs, hmax⟩]
  · rw [expire_of_ne hs, expire_of_ne hs, expire_of_ne hs]

section Sweep

variable [Zero α] [Sub α] [LT α] [DecidableLT α]

/-- One turn of the loop leaves the policy alone. -/
lemma policy_expireReservation (now : ℤ) (ledger : LedgerState α) (orderId : String) :
    (expireReservation now ledger orderId).policy = ledger.policy := by
  unfold expireReservation
  cases ledger.reservations.lookup orderId with
  | none => rfl
  | some reservation =>
    simp only
    split_ifs <;> rfl

/-- Retiring a reservation gives it the label and leaves the others alone. -/
lemma reservations_retire (ledger : LedgerState α) (orderId : String)
    (reservation : ReservationState α) (status : String) :
    (ledger.retire orderId reservation status).reservations =
      ledger.reservations.modify orderId fun r => { r with status := status } := rfl

/-- One turn of the loop expires the visited reservation and leaves the others alone.

**Proof sketch.** If the reservation has lapsed it is retired, which relabels its entry. Otherwise
expiring it changes nothing, as in the loop. -/
lemma reservations_expireReservation (now : ℤ) (ledger : LedgerState α) (orderId : String) :
    (expireReservation now ledger orderId).reservations =
      ledger.reservations.modify orderId fun r => r.expire now := by
  unfold expireReservation
  cases hl : ledger.reservations.lookup orderId with
  | none =>
    refine (UnorderedMap.modify_eq_self fun v hv => ?_).symm
    simp [hl] at hv
  | some reservation =>
    simp only
    split_ifs with hlapsed
    · rw [reservations_retire]
      apply UnorderedMap.modify_congr
      intro v hv
      obtain rfl : reservation = v := Option.some.inj (hl.symm.trans hv)
      exact (if_pos hlapsed).symm
    · refine (UnorderedMap.modify_eq_self fun v hv => ?_).symm
      obtain rfl : reservation = v := Option.some.inj (hl.symm.trans hv)
      exact if_neg hlapsed

/-- The sweep leaves the policy alone. -/
@[simp] lemma policy_expireReservations (order : IterationOrder String) (ledger : LedgerState α)
    (now : ℤ) : (expireReservations order ledger now).policy = ledger.policy := by
  unfold expireReservations
  generalize order.visit ledger.reservations.keys = visits
  induction visits generalizing ledger with
  | nil => rfl
  | cons orderId visits ih => rw [List.foldl_cons, ih, policy_expireReservation]

/-- The sweep expires every reservation, in whatever order it meets them.

**Proof sketch.** Turn by turn the loop modifies one entry. It visits every key once, so all entries
are expired. -/
lemma reservations_expireReservations (order : IterationOrder String) (ledger : LedgerState α)
    (now : ℤ) :
    (expireReservations order ledger now).reservations =
      ledger.reservations.mapEntries fun _ r => r.expire now := by
  have hloop : ∀ (visits : List String) (ledger : LedgerState α),
      (visits.foldl (expireReservation now) ledger).reservations =
        visits.foldl (fun m k => UnorderedMap.modify k (fun r => r.expire now) m)
          ledger.reservations := by
    intro visits
    induction visits with
    | nil => exact fun _ => rfl
    | cons orderId visits ih =>
      intro ledger
      rw [List.foldl_cons, List.foldl_cons, ih, reservations_expireReservation]
  rw [expireReservations, hloop, UnorderedMap.foldl_visit_modify order]

/-- The entry of an order after the sweep. -/
@[simp] lemma lookup_expireReservations (order : IterationOrder String) (ledger : LedgerState α)
    (now : ℤ) (orderId : String) :
    (expireReservations order ledger now).reservations.lookup orderId =
      (ledger.reservations.lookup orderId).map fun r => r.expire now := by
  rw [reservations_expireReservations, UnorderedMap.lookup_mapEntries]

/-- After a sweep nothing has lapsed. -/
lemma not_lapsed_of_swept {order : IterationOrder String} {ledger : LedgerState α} {now : ℤ}
    {o : String} {r : ReservationState α}
    (hr : (expireReservations order ledger now).reservations.lookup o = some r) :
    ¬r.lapsed now := by
  rw [lookup_expireReservations, Option.map_eq_some_iff] at hr
  obtain ⟨r', -, rfl⟩ := hr
  rintro ⟨hs, hle⟩
  have hactive := ReservationState.status_expire.mp hs
  rw [ReservationState.expiresAtUnixMs_expire] at hle
  exact not_le.mpr hactive.2 hle

/-- The reservations after two sweeps. -/
lemma reservations_expireReservations_twice (o₁ o₂ : IterationOrder String)
    (ledger : LedgerState α) (t₁ t₂ : ℤ) :
    (expireReservations o₂ (expireReservations o₁ ledger t₁) t₂).reservations =
      ledger.reservations.mapEntries fun _ r => r.expire (max t₁ t₂) := by
  rw [reservations_expireReservations, reservations_expireReservations,
    UnorderedMap.mapEntries_mapEntries]
  simp only [ReservationState.expire_expire]

/-- Turns of the loop that meet no lapsed reservation. -/
lemma foldl_expireReservation_eq_self {ledger : LedgerState α} {now : ℤ} {visits : List String}
    (h : ∀ o ∈ visits, ∀ r, ledger.reservations.lookup o = some r → ¬r.lapsed now) :
    visits.foldl (expireReservation now) ledger = ledger := by
  induction visits with
  | nil => rfl
  | cons o visits ih =>
    have hturn : expireReservation now ledger o = ledger := by
      unfold expireReservation
      cases hl : ledger.reservations.lookup o with
      | none => rfl
      | some r => exact if_neg (h o (List.mem_cons_self ..) r hl)
    rw [List.foldl_cons, hturn]
    exact ih fun o ho => h o (List.mem_cons_of_mem _ ho)

/-- The sweep leaves a ledger without lapsed reservations alone. -/
lemma expireReservations_eq_self {ledger : LedgerState α} {now : ℤ}
    (h : ∀ orderId r, ledger.reservations.lookup orderId = some r → ¬r.lapsed now)
    (order : IterationOrder String) : expireReservations order ledger now = ledger :=
  foldl_expireReservation_eq_self fun orderId _ => h orderId

/-- A sweep that meets one lapsed reservation retires it.

**Proof sketch.** The loop meets `o` at one point. Before it no entry has lapsed, and after it none
is left that has. -/
lemma expireReservations_eq_retire {ledger : LedgerState α} {now : ℤ} {o : String}
    {r : ReservationState α} (hr : ledger.reservations.lookup o = some r) (hlapsed : r.lapsed now)
    (honly : ∀ o' r', ledger.reservations.lookup o' = some r' → r'.lapsed now → o' = o)
    (order : IterationOrder String) :
    expireReservations order ledger now = ledger.retire o r "expired" := by
  have hmem : o ∈ order.visit ledger.reservations.keys := by
    rw [IterationOrder.mem_visit, ← AList.mem_keys, ← AList.lookup_isSome, hr]
    rfl
  obtain ⟨earlier, later, hvisits, hearlier⟩ := List.eq_append_cons_of_mem hmem
  have hbefore : earlier.foldl (expireReservation now) ledger = ledger := by
    refine foldl_expireReservation_eq_self fun o' ho' r' hr' hlapsed' => hearlier ?_
    rwa [← honly o' r' hr' hlapsed']
  have hturn : expireReservation now ledger o = ledger.retire o r "expired" := by
    simp only [expireReservation, hr, hlapsed, if_true]
  have hafter : later.foldl (expireReservation now) (ledger.retire o r "expired") =
      ledger.retire o r "expired" := by
    refine foldl_expireReservation_eq_self fun o' _ r' hr' hlapsed' => ?_
    rw [reservations_retire] at hr'
    by_cases h : o' = o
    · rw [h, UnorderedMap.lookup_modify_self, hr] at hr'
      cases hr'
      have hne : "expired" ≠ "reserved" := by decide
      exact hne hlapsed'.1
    · rw [UnorderedMap.lookup_modify_of_ne h] at hr'
      exact h (honly o' r' hr' hlapsed')
  unfold expireReservations
  rw [hvisits, List.foldl_append, List.foldl_cons, hbefore, hturn, hafter]

end Sweep

section Service

variable [Zero α] [Add α] [Sub α] [Mul α] [NatCast α] [LT α] [DecidableLT α]

/-- An approved `ReserveOrder` for an order without an entry has passed the gates and the limits,
and has been booked.

**Proof sketch.** Of the four ways in which `ReserveOrder` ends two approve, and one of these needs
an entry, which a sweep does not create. -/
lemma booked_of_approved {call : Call α} {request : ReserveOrderRequest α}
    (hreq : call.request = .reserveOrder request) {gLedgers : Ledgers α}
    (happroved : (serve call gLedgers).1.isApproved = true) {ledger : LedgerState α}
    (hl : gLedgers.lookup request.accountId = some ledger)
    (hnew : ledger.reservations.lookup request.intent.orderId = none) :
    ledger.policy.gate call.now request.riskConfigVersion = none ∧
      (expireReservations call.order ledger call.now).exceeded
        (request.reservation call.now).notional (request.reservation call.now).margin = none ∧
      (serve call gLedgers).2.lookup request.accountId =
        some ((expireReservations call.order ledger call.now).book request.intent.orderId
          (request.reservation call.now)) := by
  obtain ⟨ledger', hl', out, hout, hdecision, -, hafter⟩ := reserveOrder_approved hreq happroved
  obtain rfl : ledger = ledger' := Option.some.inj (hl.symm.trans hl')
  have hswept : (expireReservations call.order ledger call.now).reservations.lookup
      request.intent.orderId = none := by simp [hnew]
  cases hout with
  | gated => cases hdecision
  | known existing gate found =>
    rw [hswept] at found
    cases found
  | exceeded => cases hdecision
  | booked gate new fits =>
    rw [policy_expireReservations] at gate
    exact ⟨gate, fits, hafter⟩

end Service

end AccountRisk
