import QTradeService.AccountRisk.Sweep

set_option relaxedAutoImplicit false
set_option autoImplicit false

/-!
# What becomes of a reservation

A reservation, once stored, stays: its identifier, amounts and deadline never change, and its
status changes at most once, from `reserved` to a terminal label. The file states this as a
relation between two ledgers, shows that one call keeps it, and by induction that every run
does.

## Main definitions

* `AccountRisk.ReservationState.Continues`, `AccountRisk.LedgerState.Continues` — a reservation,
  or all reservations of a ledger, at an earlier and at a later time.
* `AccountRisk.Continues` — the same for the entry of an account in the map of ledgers.
* `AccountRisk.reservationOf` — the reservation of an order.

## Main results

* `AccountRisk.LedgerStep.continues`, `AccountRisk.continues_final` — one call, any run.
* `AccountRisk.new_reservation` — where a reservation comes from.
-/

namespace AccountRisk

variable {α : Type}

/-- The labels of a reservation that holds no quota any more. -/
def terminalLabels : List String := ["released", "settled", "expired"]

/-- No terminal label is `reserved`. -/
lemma ne_reserved_of_mem_terminalLabels {status : String} (h : status ∈ terminalLabels) :
    status ≠ "reserved" := by
  rintro rfl
  exact absurd h (by decide)

/-- The label of a released reservation is terminal. -/
lemma ReleaseReason.label_mem (reason : ReleaseReason) : reason.label ∈ terminalLabels := by
  unfold label
  split_ifs <;> decide

/-! ## One reservation -/

/-- `r'` is what became of the reservation `r`: everything but the status is as it was, and the
status is as it was or went from `reserved` to a terminal label. -/
structure ReservationState.Continues (r r' : ReservationState α) : Prop where
  reservationId : r'.reservationId = r.reservationId
  notional : r'.notional = r.notional
  margin : r'.margin = r.margin
  expiresAtUnixMs : r'.expiresAtUnixMs = r.expiresAtUnixMs
  status : r'.status = r.status ∨ r.status = "reserved" ∧ r'.status ∈ terminalLabels

/-- A reservation continues itself. -/
lemma ReservationState.Continues.refl (r : ReservationState α) : r.Continues r :=
  ⟨rfl, rfl, rfl, rfl, .inl rfl⟩

/-- What becomes of a reservation in two stages. The status changes in one of them at most. -/
lemma ReservationState.Continues.trans {r s t : ReservationState α} (h : r.Continues s)
    (h' : s.Continues t) : r.Continues t := by
  refine ⟨h'.reservationId.trans h.reservationId, h'.notional.trans h.notional,
    h'.margin.trans h.margin, h'.expiresAtUnixMs.trans h.expiresAtUnixMs, ?_⟩
  rcases h.status with hs | ⟨hr, hs⟩
  · rw [← hs]
    exact h'.status
  · rcases h'.status with ht | ⟨ht, -⟩
    · exact .inr ⟨hr, ht ▸ hs⟩
    · exact absurd ht (ne_reserved_of_mem_terminalLabels hs)

/-- A reservation that is reserved later was reserved all along. -/
lemma ReservationState.Continues.reserved {r r' : ReservationState α} (h : r.Continues r')
    (hr' : r'.status = "reserved") : r.status = "reserved" := by
  rcases h.status with hs | ⟨hr, -⟩
  · exact hs ▸ hr'
  · exact hr

/-- A terminal label stays. -/
lemma ReservationState.Continues.terminal {r r' : ReservationState α} (h : r.Continues r')
    (hr : r.status ≠ "reserved") : r'.status = r.status := by
  rcases h.status with hs | ⟨hr', -⟩
  · exact hs
  · exact absurd hr' hr

/-- A terminal label is given to a reserved reservation. -/
lemma ReservationState.continues_label {r : ReservationState α} (hr : r.status = "reserved")
    {status : String} (h : status ∈ terminalLabels) : r.Continues { r with status := status } :=
  ⟨rfl, rfl, rfl, rfl, .inr ⟨hr, h⟩⟩

/-- The sweep continues every reservation. -/
lemma ReservationState.continues_expire (r : ReservationState α) (now : ℤ) :
    r.Continues (r.expire now) := by
  by_cases h : r.lapsed now
  · rw [expire_of_lapsed h]
    exact continues_label h.1 (by decide)
  · rw [show r.expire now = r from if_neg h]
    exact .refl r

/-! ## All reservations of a ledger -/

/-- Every reservation of the ledger `l` is still stored in `l'`, and is what became of it. -/
def LedgerState.Continues (l l' : LedgerState α) : Prop :=
  ∀ orderId r, l.reservations.lookup orderId = some r →
    ∃ r', l'.reservations.lookup orderId = some r' ∧ r.Continues r'

/-- A ledger whose reservations are those of `l` continues `l`. -/
lemma LedgerState.Continues.of_eq {l l' : LedgerState α} (h : l'.reservations = l.reservations) :
    l.Continues l' :=
  fun _ r hr => ⟨r, h ▸ hr, .refl r⟩

/-- What becomes of the reservations in two stages. -/
lemma LedgerState.Continues.trans {l m n : LedgerState α} (h : l.Continues m)
    (h' : m.Continues n) : l.Continues n := by
  intro orderId r hr
  obtain ⟨s, hs, hrs⟩ := h orderId r hr
  obtain ⟨t, ht, hst⟩ := h' orderId s hs
  exact ⟨t, ht, hrs.trans hst⟩

section Service

variable [Zero α] [Add α] [Sub α] [Mul α] [NatCast α] [LT α] [DecidableLT α]

omit [Add α] [Mul α] [NatCast α] in
/-- The sweep continues a ledger. -/
lemma LedgerState.continues_expireReservations (order : IterationOrder String)
    (l : LedgerState α) (now : ℤ) : l.Continues (expireReservations order l now) := by
  intro orderId r hr
  exact ⟨r.expire now, by simp [hr], r.continues_expire now⟩

omit [Add α] [Mul α] [NatCast α] in
/-- Retiring a reserved reservation continues a ledger. -/
lemma LedgerState.continues_retire {l : LedgerState α} {orderId : String}
    {reservation : ReservationState α} (hl : l.reservations.lookup orderId = some reservation)
    (hreserved : reservation.status = "reserved") {status : String}
    (hstatus : status ∈ terminalLabels) : l.Continues (l.retire orderId reservation status) := by
  intro orderId' r hr
  rw [reservations_retire]
  by_cases h : orderId' = orderId
  · subst h
    obtain rfl : reservation = r := Option.some.inj (hl.symm.trans hr)
    refine ⟨_, by rw [UnorderedMap.lookup_modify_self, hl]; rfl, ?_⟩
    exact ReservationState.continues_label hreserved hstatus
  · exact ⟨r, by rw [UnorderedMap.lookup_modify_of_ne h, hr], .refl r⟩

omit [Zero α] [Sub α] [Mul α] [NatCast α] [LT α] [DecidableLT α] in
/-- The entry of an order after another one has been booked. -/
lemma LedgerState.lookup_book {l : LedgerState α} {orderId : String}
    (hl : l.reservations.lookup orderId = none) (reservation : ReservationState α)
    (orderId' : String) :
    (l.book orderId reservation).reservations.lookup orderId' =
      if orderId' = orderId then some reservation else l.reservations.lookup orderId' := by
  unfold book
  split_ifs with h
  · rw [h, UnorderedMap.lookup_emplace_self, hl]
    rfl
  · exact UnorderedMap.lookup_emplace_of_ne h _ _

omit [Zero α] [Sub α] [Mul α] [NatCast α] [LT α] [DecidableLT α] in
/-- Booking a new order continues a ledger. -/
lemma LedgerState.continues_book {l : LedgerState α} {orderId : String}
    (hl : l.reservations.lookup orderId = none) (reservation : ReservationState α) :
    l.Continues (l.book orderId reservation) := by
  intro orderId' r hr
  refine ⟨r, ?_, .refl r⟩
  rw [lookup_book hl, if_neg, hr]
  rintro rfl
  rw [hl] at hr
  cases hr

/-! ## The entry of an account -/

/-- If the account has a ledger in `entry`, it has one in `entry'`, which continues it. -/
def Continues (entry entry' : Option (LedgerState α)) : Prop :=
  ∀ l, entry = some l → ∃ l', entry' = some l' ∧ l.Continues l'

omit [Zero α] [Add α] [Sub α] [Mul α] [NatCast α] [LT α] [DecidableLT α] in
/-- An entry continues itself. -/
lemma Continues.refl (entry : Option (LedgerState α)) : Continues entry entry :=
  fun l hl => ⟨l, hl, .of_eq rfl⟩

omit [Zero α] [Add α] [Sub α] [Mul α] [NatCast α] [LT α] [DecidableLT α] in
/-- What becomes of an entry in two stages. -/
lemma Continues.trans {x y z : Option (LedgerState α)} (h : Continues x y)
    (h' : Continues y z) : Continues x z := by
  intro l hl
  obtain ⟨m, hm, hlm⟩ := h l hl
  obtain ⟨n, hn, hmn⟩ := h' m hm
  exact ⟨n, hn, hlm.trans hmn⟩

/-- One call continues every entry.

**Proof sketch.** By cases on the step: only labels change, from `reserved` to a terminal one, and
only new entries are stored. -/
lemma LedgerStep.continues {a : String} {call : Call α} {reply : Reply α}
    {entry entry' : Option (LedgerState α)} (h : LedgerStep a call reply entry entry') :
    Continues entry entry' := by
  intro l hl
  cases h with
  | idle => exact ⟨l, hl, .of_eq rfl⟩
  | sweep reply ledger =>
    cases hl
    exact ⟨_, rfl, l.continues_expireReservations call.order call.now⟩
  | book ledger request isReserve account gate new fits =>
    cases hl
    exact ⟨_, rfl, (l.continues_expireReservations call.order call.now).trans
      (LedgerState.continues_book new _)⟩
  | release ledger request isRelease account reservation found reserved =>
    cases hl
    exact ⟨_, rfl, LedgerState.continues_retire found reserved request.reason.label_mem⟩
  | create => cases hl
  | upsert ledger request =>
    cases hl
    exact ⟨_, rfl, .of_eq rfl⟩

/-- An order that gets its reservation from a call gets it from a `ReserveOrder` that is
approved, and it is the reservation that the request asks for.

**Proof sketch.** By cases on the step. Only a booking stores an entry under a new key. -/
lemma LedgerStep.new_reservation {a orderId : String} {call : Call α} {reply : Reply α}
    {entry entry' : Option (LedgerState α)} (h : LedgerStep a call reply entry entry')
    (hbefore : ∀ l, entry = some l → l.reservations.lookup orderId = none) {l' : LedgerState α}
    (hl' : entry' = some l') {r : ReservationState α}
    (hr : l'.reservations.lookup orderId = some r) :
    reply.isApproved = true ∧ ∃ request, call.request = .reserveOrder request ∧
      request.accountId = a ∧ request.intent.orderId = orderId ∧
      r = request.reservation call.now := by
  cases h with
  | idle => rw [hbefore l' hl'] at hr; cases hr
  | sweep reply ledger =>
    cases hl'
    rw [lookup_expireReservations, hbefore ledger rfl] at hr
    cases hr
  | book ledger request isReserve account gate new fits =>
    cases hl'
    rw [LedgerState.lookup_book new, lookup_expireReservations, hbefore ledger rfl] at hr
    split_ifs at hr with horder
    · cases hr
      exact ⟨by simp [Reply.isApproved, bookedResponse], request, isReserve, account, horder.symm,
        rfl⟩
    · cases hr
  | release ledger request isRelease account reservation found reserved =>
    cases hl'
    rw [reservations_retire] at hr
    have hne : orderId ≠ request.orderId := by
      rintro rfl
      rw [hbefore ledger rfl] at found
      cases found
    rw [UnorderedMap.lookup_modify_of_ne hne, hbefore ledger rfl] at hr
    cases hr
  | create => cases hl'; cases hr
  | upsert ledger request =>
    cases hl'
    rw [hbefore ledger rfl] at hr
    cases hr

/-- Any run continues every entry. -/
theorem continues_final (a : String) (calls : List (Call α)) (gLedgers : Ledgers α) :
    Continues (gLedgers.lookup a) ((service.final calls gLedgers).lookup a) :=
  Machine.final_rel (r := fun s t : Ledgers α => Continues (s.lookup a) (t.lookup a))
    (fun _ => .refl _) (fun _ _ _ => .trans)
    (fun call s => (ledgerStep_serve a call s).continues) calls gLedgers

/-! ## The reservation of an order -/

/-- The reservation of the order `orderId` of the account `a`, if one is stored. -/
def reservationOf (gLedgers : Ledgers α) (a orderId : String) : Option (ReservationState α) :=
  (gLedgers.lookup a).bind fun l => l.reservations.lookup orderId

omit [Zero α] [Add α] [Sub α] [Mul α] [NatCast α] [LT α] [DecidableLT α] in
/-- A stored reservation is stored in the ledger of its account. -/
lemma reservationOf_eq_some {gLedgers : Ledgers α} {a orderId : String} {r : ReservationState α} :
    reservationOf gLedgers a orderId = some r ↔
      ∃ l, gLedgers.lookup a = some l ∧ l.reservations.lookup orderId = some r :=
  Option.bind_eq_some_iff

omit [Zero α] [Add α] [Sub α] [Mul α] [NatCast α] [LT α] [DecidableLT α] in
/-- An order has no reservation if the ledger of its account, should there be one, has none. -/
lemma reservationOf_eq_none {gLedgers : Ledgers α} {a orderId : String} :
    reservationOf gLedgers a orderId = none ↔
      ∀ l, gLedgers.lookup a = some l → l.reservations.lookup orderId = none :=
  Option.bind_eq_none_iff

/-- What any run makes of a stored reservation. -/
lemma reservationOf_final {gLedgers : Ledgers α} {a orderId : String} {r : ReservationState α}
    (hr : reservationOf gLedgers a orderId = some r) (calls : List (Call α)) :
    ∃ r', reservationOf (service.final calls gLedgers) a orderId = some r' ∧ r.Continues r' := by
  obtain ⟨l, hl, hlr⟩ := reservationOf_eq_some.mp hr
  obtain ⟨l', hl', hcont⟩ := continues_final a calls gLedgers l hl
  obtain ⟨r', hr', hrr⟩ := hcont orderId r hlr
  exact ⟨r', reservationOf_eq_some.mpr ⟨l', hl', hr'⟩, hrr⟩

/-- A reservation that a call stores was asked for by a `ReserveOrder` that is approved. -/
lemma new_reservation {gLedgers : Ledgers α} {a orderId : String} {call : Call α}
    (hbefore : reservationOf gLedgers a orderId = none) {r : ReservationState α}
    (hr : reservationOf (serve call gLedgers).2 a orderId = some r) :
    (serve call gLedgers).1.isApproved = true ∧ ∃ request,
      call.request = .reserveOrder request ∧ request.accountId = a ∧
      request.intent.orderId = orderId ∧ r = request.reservation call.now := by
  obtain ⟨l', hl', hlr⟩ := reservationOf_eq_some.mp hr
  exact (ledgerStep_serve a call gLedgers).new_reservation
    (reservationOf_eq_none.mp hbefore) hl' hlr

end Service

end AccountRisk
