import QTradeService.AccountRisk.Views

set_option relaxedAutoImplicit false
set_option autoImplicit false

/-!
# How long a reservation lives

`ReserveOrder` stores the deadline of a reservation as the `int64` sum of the clock and the time to
live that the client asks for. If the sum fits, the reservation is seen as `reserved` until the
deadline, whatever the other clients do, and never again after a sweep at or past it. If it does
not fit, the deadline lies in the past and the reservation is gone at once.

## Main definitions

* `AccountRisk.ReserveOrderRequest.ttlMs` — the time to live of a reservation.
* `AccountRisk.Call.asksFor`, `AccountRisk.Reply.ShowsReserved` — the calls that report on an
  order, and the answers that report it as reserved.
* `AccountRisk.Call.sweeps`, `AccountRisk.Call.releases` — the calls that end a reservation.
* `AccountRisk.LivesUntil` — an order is reported as reserved up to a time and not after it.

## Main results

* `AccountRisk.showsReserved_iff` — what a report says about an order with a reservation.
* `AccountRisk.livesUntil_of_reservation` — a reservation lives until its deadline.
* `AccountRisk.lives_its_ttl_iff` — a new reservation lives for its whole time to live if and only
  if its deadline fits.
-/

namespace AccountRisk

variable {α : Type}

/-- The time to live of a reservation (milliseconds). -/
def ReserveOrderRequest.ttlMs (request : ReserveOrderRequest α) : ℤ :=
  if 0 < request.reservationTtlMs then request.reservationTtlMs else defaultTtlMs

/-- A reservation lives for some time. -/
lemma ReserveOrderRequest.ttlMs_pos (request : ReserveOrderRequest α) : 0 < request.ttlMs := by
  unfold ttlMs defaultTtlMs
  split_ifs <;> omega

/-- A sum that fits is not wrapped. -/
lemma int64_of_lt {x : ℤ} (hx : 0 ≤ x) (hlt : x < 2 ^ 63) : int64 x = x := by
  rw [int64, Int.bmod_eq_emod]
  split_ifs <;> omega

/-- A sum of two `int64` values that does not fit is negative. -/
lemma int64_neg_of_ge {x : ℤ} (hge : 2 ^ 63 ≤ x) (hlt : x < 2 ^ 64) : int64 x < 0 := by
  rw [int64, Int.bmod_eq_emod]
  split_ifs <;> omega

/-! ## Reports -/

/-- The call reports on the order `o` of the account `a`. -/
def Call.asksFor (call : Call α) (a o : String) : Prop :=
  call.request = .queryReservation ⟨a, o⟩ ∨ call.request = .listActiveReservations ⟨a⟩

/-- The answer reports the order `o` as reserved. -/
def Reply.ShowsReserved (o : String) : Reply α → Prop
  | .queryReservation status response =>
    status = .OK ∧ ∃ v ∈ response.reservation, v.orderId = o ∧ v.status = "reserved"
  | .listActiveReservations status response =>
    status = .OK ∧ ∃ v ∈ response.reservations, v.orderId = o ∧ v.status = "reserved"
  | _ => False

/-- The call sweeps the ledger of the account `a`, if there is one: it is a well-formed query or
`ReserveOrder`. Only these calls read the clock. -/
inductive Call.sweeps (a : String) : Call α → Prop
  | query {o : String} {now : ℤ} {order : IterationOrder String} (named : ¬(a = "" ∨ o = "")) :
      sweeps a ⟨.queryReservation ⟨a, o⟩, now, order⟩
  | list {now : ℤ} {order : IterationOrder String} :
      sweeps a ⟨.listActiveReservations ⟨a⟩, now, order⟩
  | reserve {request : ReserveOrderRequest α} {now : ℤ} {order : IterationOrder String}
      (account : request.accountId = a) (named : ¬(a = "" ∨ request.intent.orderId = "")) :
      sweeps a ⟨.reserveOrder request, now, order⟩

/-- The call is a `ReleaseOrder` for the order `o` of the account `a`. -/
def Call.releases (call : Call α) (a o : String) : Prop :=
  ∃ reason, call.request = .releaseOrder ⟨a, o, reason⟩

section Service

variable [Zero α] [Add α] [Sub α] [Mul α] [NatCast α] [LT α] [DecidableLT α]

/-- From a state on, the order `o` of the account `a` is reported as reserved before `deadline`,
unless it is released, and not any more once the account was swept at or after `deadline`. -/
structure LivesUntil (gLedgers : Ledgers α) (a o : String) (deadline : ℤ) : Prop where
  alive : ∀ later : List (Call α), (∀ call ∈ later, call.now < deadline ∧ ¬call.releases a o) →
    ∀ call : Call α, call.asksFor a o → call.now < deadline →
      (serve call (service.final later gLedgers)).1.ShowsReserved o
  ended : ∀ (earlier : List (Call α)) (sweep : Call α) (later : List (Call α)), sweep.sweeps a →
    deadline ≤ sweep.now →
      ∀ event ∈ service.trace (sweep :: later) (service.final earlier gLedgers),
        event.1.asksFor a o → ¬event.2.ShowsReserved o

/-- A report on an order with a reservation says whether it is active.

**Proof sketch.** Both reports sweep first. The query shows the status of the expired reservation,
and the list has the entries that are active. -/
lemma showsReserved_iff {gLedgers : Ledgers α} {a o : String} (ha : a ≠ "") (ho : o ≠ "")
    {r : ReservationState α} (hr : reservationOf gLedgers a o = some r) {call : Call α}
    (hasks : call.asksFor a o) :
    (serve call gLedgers).1.ShowsReserved o ↔ r.activeAt call.now := by
  obtain ⟨l, hl, hlr⟩ := reservationOf_eq_some.mp hr
  obtain ⟨request, now, order⟩ := call
  rcases hasks with rfl | rfl
  · have hreply : (serve ⟨.queryReservation ⟨a, o⟩, now, order⟩ gLedgers).1 =
        .queryReservation .OK ⟨some ((r.expire now).view o)⟩ := by
      simp [serve, queryReservation, ha, ho, accountKey, hl, queryInLedger, hlr]
    rw [hreply, ← ReservationState.status_expire]
    constructor
    · rintro ⟨-, v, hv, -, hs⟩
      obtain rfl := Option.some.inj hv
      exact hs
    · intro hs
      exact ⟨rfl, _, rfl, rfl, hs⟩
  · have hreply : (serve ⟨.listActiveReservations ⟨a⟩, now, order⟩ gLedgers).1 =
        .listActiveReservations .OK (listInLedger order (expireReservations order l now)) := by
      simp [serve, listActiveReservations, accountKey, hl]
    rw [hreply]
    constructor
    · rintro ⟨-, v, hv, rfl, -⟩
      obtain ⟨r', hr', hactive, -⟩ := mem_list_swept.mp hv
      rw [hlr] at hr'
      exact Option.some.inj hr' ▸ hactive
    · intro hactive
      exact ⟨rfl, r.view o, mem_list_swept.mpr ⟨r, hlr, hactive, rfl⟩, rfl, hactive.1⟩

/-- A call before the deadline that does not release the order leaves its reservation alone.

**Proof sketch.** By cases on the step. A sweep leaves an active reservation alone, a booking and a
release meet another order, and an upsert keeps the reservations. -/
lemma LedgerStep.lookup_of_activeAt {a o : String} {call : Call α} {reply : Reply α}
    {entry entry' : Option (LedgerState α)} (h : LedgerStep a call reply entry entry')
    {l : LedgerState α} (hl : entry = some l) {r : ReservationState α}
    (hr : l.reservations.lookup o = some r) (hactive : r.activeAt call.now)
    (hrelease : ¬call.releases a o) :
    ∃ l', entry' = some l' ∧ l'.reservations.lookup o = some r := by
  have hswept : (expireReservations call.order l call.now).reservations.lookup o = some r := by
    simp [hr, ReservationState.expire_of_activeAt hactive]
  cases h with
  | idle => exact ⟨l, hl, hr⟩
  | sweep reply ledger =>
    cases hl
    exact ⟨_, rfl, hswept⟩
  | book ledger request isReserve account gate new fits =>
    cases hl
    refine ⟨_, rfl, ?_⟩
    rw [LedgerState.lookup_book new, if_neg, hswept]
    rintro rfl
    rw [hswept] at new
    cases new
  | release ledger request isRelease account reservation found reserved =>
    cases hl
    refine ⟨_, rfl, ?_⟩
    rw [reservations_retire, UnorderedMap.lookup_modify_of_ne, hr]
    rintro rfl
    subst account
    exact hrelease ⟨request.reason, isRelease⟩
  | create => cases hl
  | upsert ledger request =>
    cases hl
    exact ⟨_, rfl, hr⟩

/-- A run before the deadline that does not release the order leaves its reservation alone. -/
lemma reservationOf_final_of_activeAt {gLedgers : Ledgers α} {a o : String}
    {r : ReservationState α} (hr : reservationOf gLedgers a o = some r)
    (hreserved : r.status = "reserved") {calls : List (Call α)}
    (hcalls : ∀ call ∈ calls, call.now < r.expiresAtUnixMs ∧ ¬call.releases a o) :
    reservationOf (service.final calls gLedgers) a o = some r := by
  refine Machine.final_invariant_of_events
    (I := fun s : Ledgers α => reservationOf s a o = some r) (fun pre call post hsplit hs => ?_) hr
  obtain ⟨hnow, hrelease⟩ := hcalls call (by rw [hsplit]; simp)
  obtain ⟨l, hl, hlr⟩ := reservationOf_eq_some.mp hs
  have hstep := ledgerStep_serve a call (service.final pre gLedgers)
  obtain ⟨l', hl', hlr'⟩ := hstep.lookup_of_activeAt hl hlr ⟨hreserved, hnow⟩ hrelease
  exact reservationOf_eq_some.mpr ⟨l', hl', hlr'⟩

/-- After a sweep at or past the deadline the reservation is not reserved.

**Proof sketch.** The sweep expires the reservation. The query and the list leave it at that, and
what `ReserveOrder` does next continues the swept ledger, in which it is terminal. -/
lemma reservationOf_serve_of_sweeps {gLedgers : Ledgers α} {a o : String} {r : ReservationState α}
    (hr : reservationOf gLedgers a o = some r) {call : Call α} (hsweeps : call.sweeps a)
    (hactive : ¬r.activeAt call.now) :
    ∃ r', reservationOf (serve call gLedgers).2 a o = some r' ∧ r'.status ≠ "reserved" := by
  obtain ⟨l, hl, hlr⟩ := reservationOf_eq_some.mp hr
  have hswept : (expireReservations call.order l call.now).reservations.lookup o =
      some (r.expire call.now) := by simp [hlr]
  have hexpired : (r.expire call.now).status ≠ "reserved" :=
    mt ReservationState.status_expire.mp hactive
  cases hsweeps with
  | query named =>
    refine ⟨_, reservationOf_eq_some.mpr ⟨_, ?_, hswept⟩, hexpired⟩
    simp [serve, queryReservation, named, accountKey, hl]
  | list =>
    refine ⟨_, reservationOf_eq_some.mpr ⟨_, ?_, hswept⟩, hexpired⟩
    simp [serve, listActiveReservations, accountKey, hl]
  | @reserve request now order account named =>
    subst account
    have hreq : (⟨.reserveOrder request, now, order⟩ : Call α).request =
        .reserveOrder request := rfl
    obtain ⟨-, hafter⟩ := serve_reserveOrder hreq named hl
    -- what `ReserveOrder` does to the swept ledger continues it
    have hcont : (expireReservations order l now).Continues
        (reserveInLedger now request (expireReservations order l now)).2 := by
      have hout := reserveInLedger_outcome now request (expireReservations order l now)
      generalize reserveInLedger now request (expireReservations order l now) = out at hout
      cases hout with
      | gated | known | exceeded => exact .of_eq rfl
      | booked gate new fits => exact LedgerState.continues_book new _
    obtain ⟨r', hr', hrr⟩ := hcont o _ hswept
    refine ⟨r', reservationOf_eq_some.mpr ⟨_, hafter, hr'⟩, ?_⟩
    rw [hrr.terminal hexpired]
    exact hexpired

/-- **A reservation lives until its deadline**, and no longer.

**Proof sketch.** Before the deadline no sweep touches it. A sweep at or past the deadline gives it
a terminal label, if it had none, and that label stays. -/
theorem livesUntil_of_reservation {gLedgers : Ledgers α} {a o : String} (ha : a ≠ "") (ho : o ≠ "")
    {r : ReservationState α} (hr : reservationOf gLedgers a o = some r)
    (hreserved : r.status = "reserved") : LivesUntil gLedgers a o r.expiresAtUnixMs := by
  constructor
  · intro later hlater call hasks hnow
    have hfinal := reservationOf_final_of_activeAt hr hreserved hlater
    exact (showsReserved_iff ha ho hfinal hasks).mpr ⟨hreserved, hnow⟩
  · intro earlier sweep later hsweeps hnow event hevent hasks
    obtain ⟨r₁, hr₁, hrr₁⟩ := reservationOf_final hr earlier
    have hlapsed : ¬r₁.activeAt sweep.now := by
      intro hactive
      have hlt := hactive.2
      rw [hrr₁.expiresAtUnixMs] at hlt
      exact not_lt.mpr hnow hlt
    obtain ⟨r₂, hr₂, hterminal⟩ := reservationOf_serve_of_sweeps hr₁ hsweeps hlapsed
    rcases List.mem_cons.mp hevent with rfl | hevent
    · exact mt (showsReserved_iff ha ho hr₁ hasks).mp hlapsed
    · obtain ⟨call, reply⟩ := event
      obtain ⟨pre, post, -, rfl⟩ := service.mem_trace_iff.mp hevent
      obtain ⟨r₃, hr₃, hrr₃⟩ := reservationOf_final hr₂ pre
      refine mt (showsReserved_iff ha ho hr₃ hasks).mp fun hactive => ?_
      exact hterminal (hrr₃.reserved hactive.1)

/-- **When a reservation lives for its whole time to live.** A `ReserveOrder` that is newly
approved at the time `now` is reported as reserved before `now + ttlMs`, unless it is released, and
not after a sweep at or past that time, if and only if that sum is an `int64`.

**Proof sketch.** If the sum fits, it is the stored deadline. If not, the stored deadline is
negative, so that a query at the time of the approval finds the reservation expired. -/
theorem lives_its_ttl_iff (gLedgers : Ledgers α) (call : Call α) (request : ReserveOrderRequest α)
    (hreq : call.request = .reserveOrder request)
    (hnew : reservationOf gLedgers request.accountId request.intent.orderId = none)
    (happroved : (serve call gLedgers).1.isApproved = true) (hnow : 0 ≤ call.now)
    (hnow' : call.now < 2 ^ 63) (httl : request.reservationTtlMs < 2 ^ 63) :
    LivesUntil (serve call gLedgers).2 request.accountId request.intent.orderId
        (call.now + request.ttlMs) ↔
      call.now + request.ttlMs < 2 ^ 63 := by
  obtain ⟨ha, ho⟩ := not_or.mp (ids_of_approved hreq happroved)
  obtain ⟨response, r, -, hr, hreserved, -⟩ := reserved_of_approved hreq happroved
  have hexpires : r.expiresAtUnixMs = int64 (call.now + request.ttlMs) := by
    obtain ⟨-, request', hreq', -, -, rfl⟩ := new_reservation hnew hr
    rw [hreq] at hreq'
    cases hreq'
    rfl
  have hpos := request.ttlMs_pos
  constructor
  · intro hlives
    by_contra hover
    have hlt : call.now + request.ttlMs < 2 ^ 64 := by
      unfold ReserveOrderRequest.ttlMs defaultTtlMs at *
      split_ifs at * <;> omega
    have hpast : r.expiresAtUnixMs < 0 := by
      rw [hexpires]
      exact int64_neg_of_ge (not_lt.mp hover) hlt
    have hshows := hlives.alive [] (by simp)
      ⟨.queryReservation ⟨request.accountId, request.intent.orderId⟩, call.now, call.order⟩
      (.inl rfl) (by simp only; omega)
    have hactive := (showsReserved_iff ha ho hr (.inl rfl)).mp hshows
    have hlater := hactive.2
    simp only at hlater
    omega
  · intro hfits
    have hstored : r.expiresAtUnixMs = call.now + request.ttlMs := by
      rw [hexpires, int64_of_lt (by omega) hfits]
    rw [← hstored]
    exact livesUntil_of_reservation ha ho hr hreserved

end Service

/-- Reserve 20 for the order `o1` of the account `acc` at the time `now`, for some time. -/
def Sample.reserveFor (ttlMs now : ℤ) : Call ℚ :=
  ⟨.reserveOrder ⟨"acc", ⟨"o1", 10, 2, 0, 5⟩, 0, ttlMs⟩, now, .stored⟩

/-- A reservation of one second. -/
theorem lives_its_ttl_sample :
    LivesUntil (serve (Sample.reserveFor 1000 5) (service.final [Sample.upsert 1 true] ∅)).2
      "acc" "o1" 1005 := by
  have ⟨hnew, happroved⟩ : reservationOf (service.final [Sample.upsert 1 true] (∅ : Ledgers ℚ))
        "acc" "o1" = none ∧
      (serve (Sample.reserveFor 1000 5)
        (service.final [Sample.upsert 1 true] ∅)).1.isApproved = true := by decide +kernel
  exact (lives_its_ttl_iff (service.final [Sample.upsert 1 true] ∅) (Sample.reserveFor 1000 5) _ rfl
    hnew happroved (by decide) (by decide) (by decide)).mpr (by decide)

/-- The longest time to live that a client can ask for: the order is approved with a deadline in the
past, and a query at the same time finds it expired.

**Proof sketch.** The two answers are computed. A reservation that lived to the exact deadline would
be shown as reserved by the query. -/
theorem longest_ttl_expires_at_once :
    let gLedgers := service.final [Sample.upsert 1 true] (∅ : Ledgers ℚ)
    let reserve := Sample.reserveFor (2 ^ 63 - 1) 1
    (serve reserve gLedgers).1 =
        .reserveOrder .OK ⟨.approved, "", 1, "RSV-o1", -2 ^ 63⟩ ∧
      (serve ⟨.queryReservation ⟨"acc", "o1"⟩, 1, .stored⟩ (serve reserve gLedgers).2).1 =
        .queryReservation .OK ⟨some ⟨"o1", "RSV-o1", "expired", -2 ^ 63⟩⟩ ∧
      ¬LivesUntil (serve reserve gLedgers).2 "acc" "o1" (1 + (2 ^ 63 - 1)) := by
  intro gLedgers reserve
  have ⟨happroved, hquery⟩ : (serve reserve gLedgers).1 =
        .reserveOrder .OK ⟨.approved, "", 1, "RSV-o1", -2 ^ 63⟩ ∧
      (serve ⟨.queryReservation ⟨"acc", "o1"⟩, 1, .stored⟩ (serve reserve gLedgers).2).1 =
        .queryReservation .OK ⟨some ⟨"o1", "RSV-o1", "expired", -2 ^ 63⟩⟩ := by decide +kernel
  refine ⟨happroved, hquery, fun hlives => ?_⟩
  have hshows := hlives.alive [] (by simp) ⟨.queryReservation ⟨"acc", "o1"⟩, 1, .stored⟩ (.inl rfl)
    (by decide)
  rw [Machine.final_nil, hquery] at hshows
  obtain ⟨-, v, hv, -, hs⟩ := hshows
  cases hv
  exact absurd hs (by decide)

end AccountRisk
