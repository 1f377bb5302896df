import Mathlib.Algebra.Order.Ring.Rat
import Mathlib.Tactic.Linarith
import QTradeService.AccountRisk.History

set_option relaxedAutoImplicit false
set_option autoImplicit false

/-!
# The cached totals are the totals of the reserved reservations

A ledger caches the number of its reserved reservations and the sums of their notionals and
margins. Every debit is clamped at zero, which would hide a drift of the cache for ever. It
never does: the counter is exact in every reachable state, and so are the sums of a ledger
without negative amounts, so that no clamp ever takes effect.

The counter is exact for amounts of any type; the sums are stated for exact rationals.

## Main definitions

* `AccountRisk.LedgerState.reserved` — the stored reservations whose status is `reserved`.
* `AccountRisk.LedgerState.CountsReserved`, `AccountRisk.LedgerState.SumsReserved` — the cached
  counter and the cached sums are right.
* `AccountRisk.LedgerState.Conserved` — the invariant.

## Main results

* `AccountRisk.retire_countsReserved`, `AccountRisk.retire_sumsReserved` — a debit.
* `AccountRisk.ledger_conservation` — the invariant holds in every reachable state.
-/

namespace AccountRisk

variable {α : Type}

/-! ## The reserved reservations -/

/-- The stored reservations whose status is `reserved`. -/
def LedgerState.reserved (ledger : LedgerState α) : List (ReservationState α) :=
  (ledger.reservations.entries.map fun e => e.2).filter fun r => r.status = "reserved"

/-- The contribution of a reservation to a total over the reserved ones. -/
def ReservationState.held {M : Type} [Zero M] (q : ReservationState α → M)
    (r : ReservationState α) : M :=
  if r.status = "reserved" then q r else 0

/-- A reserved reservation contributes its quantity. -/
lemma ReservationState.held_of_reserved {M : Type} [Zero M] (q : ReservationState α → M)
    {r : ReservationState α} (h : r.status = "reserved") : r.held q = q r :=
  if_pos h

/-- A terminal reservation contributes nothing. -/
lemma ReservationState.held_of_terminal {M : Type} [Zero M] (q : ReservationState α → M)
    {r : ReservationState α} (h : r.status ≠ "reserved") : r.held q = 0 :=
  if_neg h

/-- A total over the reserved reservations, as a total over all of them. -/
lemma total_held {M : Type} [AddCommMonoid M] (q : ReservationState α → M)
    (ledger : LedgerState α) :
    UnorderedMap.total (fun r => r.held q) ledger.reservations = (ledger.reserved.map q).sum := by
  unfold UnorderedMap.total LedgerState.reserved
  induction ledger.reservations.entries with
  | nil => rfl
  | cons e es ih =>
    simp only [List.map_cons, List.sum_cons, ih]
    by_cases h : e.2.status = "reserved"
    · rw [List.filter_cons_of_pos (by simpa using h), List.map_cons, List.sum_cons,
        ReservationState.held_of_reserved q h]
    · rw [List.filter_cons_of_neg (by simpa using h), ReservationState.held_of_terminal q h,
        zero_add]

/-! ## The counter -/

/-- The cached counter is the number of reserved reservations. -/
def LedgerState.CountsReserved (ledger : LedgerState α) : Prop :=
  ledger.reservedOpenOrders = ledger.reserved.length

section Counter

variable [Zero α] [Add α] [Sub α] [Mul α] [NatCast α] [LT α] [DecidableLT α]

omit [Add α] [Mul α] [NatCast α] in
/-- Retiring a reserved reservation takes its quantity out of every total. -/
lemma sum_reserved_retire {M : Type} [AddCommMonoid M] (q : ReservationState α → M)
    {ledger : LedgerState α} {orderId : String} {r : ReservationState α}
    (hl : ledger.reservations.lookup orderId = some r) (hr : r.status = "reserved")
    {status : String} (hstatus : status ∈ terminalLabels) :
    ((ledger.retire orderId r status).reserved.map q).sum + q r =
      (ledger.reserved.map q).sum := by
  have h := UnorderedMap.total_modify hl (fun r => r.held q) fun r => { r with status := status }
  have hne := ne_reserved_of_mem_terminalLabels hstatus
  rw [ReservationState.held_of_reserved q hr, ReservationState.held_of_terminal q hne, add_zero,
    total_held] at h
  rw [← h, ← total_held, reservations_retire]

omit [Zero α] [Sub α] [Mul α] [NatCast α] [LT α] [DecidableLT α] in
/-- Booking a new reservation adds its quantity to every total. -/
lemma sum_reserved_book {M : Type} [AddCommMonoid M] (q : ReservationState α → M)
    {ledger : LedgerState α} {orderId : String}
    (hl : ledger.reservations.lookup orderId = none) {r : ReservationState α}
    (hr : r.status = "reserved") :
    ((ledger.book orderId r).reserved.map q).sum = q r + (ledger.reserved.map q).sum := by
  have hnew : orderId ∉ ledger.reservations := AList.lookup_eq_none.mp hl
  rw [← total_held, ← total_held, LedgerState.book, UnorderedMap.emplace_of_notMem hnew,
    UnorderedMap.total_insert hnew, ReservationState.held_of_reserved q hr]

omit [Add α] [Mul α] [NatCast α] in
/-- Retiring a reserved reservation leaves one reserved reservation less. -/
lemma length_reserved_retire {ledger : LedgerState α} {orderId : String}
    {r : ReservationState α} (hl : ledger.reservations.lookup orderId = some r)
    (hr : r.status = "reserved") {status : String} (hstatus : status ∈ terminalLabels) :
    (ledger.retire orderId r status).reserved.length + 1 = ledger.reserved.length := by
  have hsum := sum_reserved_retire (fun _ => 1) hl hr hstatus
  rwa [List.map_const', List.map_const', List.sum_replicate_nat, List.sum_replicate_nat, mul_one,
    mul_one] at hsum

omit [Zero α] [Sub α] [Mul α] [NatCast α] [LT α] [DecidableLT α] in
/-- Booking a new reservation leaves one reserved reservation more. -/
lemma length_reserved_book {ledger : LedgerState α} {orderId : String}
    (hl : ledger.reservations.lookup orderId = none) {r : ReservationState α}
    (hr : r.status = "reserved") :
    (ledger.book orderId r).reserved.length = 1 + ledger.reserved.length := by
  have hsum := sum_reserved_book (fun _ => 1) hl hr
  rwa [List.map_const', List.map_const', List.sum_replicate_nat, List.sum_replicate_nat, mul_one,
    mul_one] at hsum

omit [Add α] [Mul α] [NatCast α] in
/-- A debit keeps the counter right: the guard `> 0` holds, since the retired reservation is
counted. -/
lemma retire_countsReserved {ledger : LedgerState α} {orderId : String} {r : ReservationState α}
    (hl : ledger.reservations.lookup orderId = some r) (hr : r.status = "reserved")
    {status : String} (hstatus : status ∈ terminalLabels) (h : ledger.CountsReserved) :
    (ledger.retire orderId r status).CountsReserved := by
  have hlen := length_reserved_retire hl hr hstatus
  have hpos : ledger.reservedOpenOrders > 0 := by
    rw [h]
    omega
  have hcount : (ledger.retire orderId r status).reservedOpenOrders =
      ledger.reservedOpenOrders - 1 := if_pos hpos
  rw [LedgerState.CountsReserved, hcount, h]
  omega

omit [Zero α] [Sub α] [Mul α] [NatCast α] [LT α] [DecidableLT α] in
/-- A credit keeps the counter right. -/
lemma book_countsReserved {ledger : LedgerState α} {orderId : String}
    (hl : ledger.reservations.lookup orderId = none) {r : ReservationState α}
    (hr : r.status = "reserved") (h : ledger.CountsReserved) :
    (ledger.book orderId r).CountsReserved := by
  rw [LedgerState.CountsReserved, length_reserved_book hl hr, ← h, add_comm]
  rfl

omit [Add α] [Mul α] [NatCast α] in
/-- What every debit of a reserved reservation preserves, the sweep preserves.

**Proof sketch.** Induction on the visits of the loop. A turn of the loop either leaves the
ledger alone or retires the visited reservation, which is stored and reserved. -/
lemma expireReservations_induction {I : LedgerState α → Prop}
    (hretire : ∀ ledger orderId r, ledger.reservations.lookup orderId = some r →
      r.status = "reserved" → I ledger → I (ledger.retire orderId r "expired"))
    (order : IterationOrder String) (ledger : LedgerState α) (now : ℤ) (h : I ledger) :
    I (expireReservations order ledger now) := by
  unfold expireReservations
  generalize order.visit ledger.reservations.keys = visits
  induction visits generalizing ledger with
  | nil => exact h
  | cons orderId visits ih =>
    refine ih _ ?_
    unfold expireReservation
    cases hl : ledger.reservations.lookup orderId with
    | none => exact h
    | some r =>
      simp only
      split_ifs with hlapsed
      · exact hretire ledger orderId r hl hlapsed.1 h
      · exact h

omit [Add α] [Mul α] [NatCast α] in
/-- The sweep keeps the counter right. -/
lemma expireReservations_countsReserved (order : IterationOrder String) (ledger : LedgerState α)
    (now : ℤ) (h : ledger.CountsReserved) :
    (expireReservations order ledger now).CountsReserved :=
  expireReservations_induction
    (fun _ _ _ hl hr h => retire_countsReserved hl hr (by decide) h) order ledger now h

/-- One call keeps the counter of every ledger right.

**Proof sketch.** By cases on the step. A sweep and a release debit the counter once for every
reservation they retire, and a booking credits it once. -/
lemma LedgerStep.countsReserved {a : String} {call : Call α} {reply : Reply α}
    {entry entry' : Option (LedgerState α)} (h : LedgerStep a call reply entry entry')
    (hinv : ∀ l, entry = some l → l.CountsReserved) :
    ∀ l, entry' = some l → l.CountsReserved := by
  intro l hl
  cases h with
  | idle => exact hinv l hl
  | sweep reply ledger =>
    cases hl
    exact expireReservations_countsReserved _ _ _ (hinv ledger rfl)
  | book ledger request isReserve account gate new fits =>
    cases hl
    exact book_countsReserved new rfl (expireReservations_countsReserved _ _ _ (hinv ledger rfl))
  | release ledger request isRelease account reservation found reserved =>
    cases hl
    exact retire_countsReserved found reserved request.reason.label_mem (hinv ledger rfl)
  | create => cases hl; rfl
  | upsert ledger request => cases hl; exact hinv ledger rfl

/-- In every reachable state the counter of every ledger is right. -/
theorem countsReserved_of_reachable {gLedgers : Ledgers α} (h : Reachable gLedgers) (a : String)
    (ledger : LedgerState α) (hl : gLedgers.lookup a = some ledger) : ledger.CountsReserved :=
  h.invariant (I := fun s : Ledgers α => ∀ l, s.lookup a = some l → l.CountsReserved)
    (fun call s hs => (ledgerStep_serve a call s).countsReserved hs) (by simp) ledger hl

end Counter

/-! ## The sums -/

/-- No reservation of the ledger carries a negative amount. -/
def LedgerState.Nonneg (ledger : LedgerState ℚ) : Prop :=
  ∀ orderId r, ledger.reservations.lookup orderId = some r → 0 ≤ r.notional ∧ 0 ≤ r.margin

instance (ledger : LedgerState ℚ) : Decidable ledger.Nonneg :=
  decidable_of_iff (∀ e ∈ ledger.reservations.entries, 0 ≤ e.2.notional ∧ 0 ≤ e.2.margin)
    (UnorderedMap.forall_entries (p := fun _ (r : ReservationState ℚ) =>
      0 ≤ r.notional ∧ 0 ≤ r.margin))

/-- The cached sums are the sums over the reserved reservations. -/
def LedgerState.SumsReserved (ledger : LedgerState ℚ) : Prop :=
  ledger.reservedNotional = (ledger.reserved.map fun r => r.notional).sum ∧
    ledger.reservedMargin = (ledger.reserved.map fun r => r.margin).sum

/-- The cached totals are right: the counter always, the sums if no amount is negative. -/
structure LedgerState.Conserved (ledger : LedgerState ℚ) : Prop where
  counts : ledger.CountsReserved
  sums : ledger.Nonneg → ledger.SumsReserved

/-- Amounts are never changed, so a ledger without negative amounts never had any. -/
lemma LedgerState.Continues.nonneg {l l' : LedgerState ℚ} (h : l.Continues l')
    (hnonneg : l'.Nonneg) : l.Nonneg := by
  intro orderId r hr
  obtain ⟨r', hr', hcont⟩ := h orderId r hr
  rw [← hcont.notional, ← hcont.margin]
  exact hnonneg orderId r' hr'

/-- The clamp `std::max(0.0, x)` does nothing to `x ≥ 0`. -/
lemma stdMax_of_nonneg {x : ℚ} (hx : 0 ≤ x) : stdMax 0 x = x := by
  unfold stdMax
  split_ifs with h
  · rfl
  · exact le_antisymm hx (not_lt.mp h)

/-- One nonnegative quantity of a reserved reservation is at most the sum of all of them. -/
lemma le_sum_reserved {q : ReservationState ℚ → ℚ} {ledger : LedgerState ℚ}
    (hq : ∀ orderId r, ledger.reservations.lookup orderId = some r → 0 ≤ q r) {orderId : String}
    {r : ReservationState ℚ} (hl : ledger.reservations.lookup orderId = some r)
    (hr : r.status = "reserved") : q r ≤ (ledger.reserved.map q).sum := by
  have hheld : ∀ e ∈ ledger.reservations.entries, 0 ≤ e.2.held q := by
    intro e he
    by_cases h : e.2.status = "reserved"
    · rw [ReservationState.held_of_reserved q h]
      exact hq e.1 e.2 (AList.mem_lookup_iff.mpr he)
    · rw [ReservationState.held_of_terminal q h]
  have hle := UnorderedMap.le_total (q := fun r : ReservationState ℚ => r.held q) hheld hl
  rwa [ReservationState.held_of_reserved q hr, total_held] at hle

/-- A debit on a ledger without negative amounts is exact: neither clamp takes effect. -/
lemma retire_exact {ledger : LedgerState ℚ} {orderId : String} {r : ReservationState ℚ}
    (hl : ledger.reservations.lookup orderId = some r) (hr : r.status = "reserved")
    (hnonneg : ledger.Nonneg) (h : ledger.SumsReserved) (status : String) :
    (ledger.retire orderId r status).reservedNotional = ledger.reservedNotional - r.notional ∧
      (ledger.retire orderId r status).reservedMargin = ledger.reservedMargin - r.margin := by
  obtain ⟨hnotional, hmargin⟩ := h
  have hn := le_sum_reserved (fun k s hs => (hnonneg k s hs).1) hl hr
  have hm := le_sum_reserved (fun k s hs => (hnonneg k s hs).2) hl hr
  exact ⟨stdMax_of_nonneg (by linarith), stdMax_of_nonneg (by linarith)⟩

/-- A debit keeps the sums right. -/
lemma retire_sumsReserved {ledger : LedgerState ℚ} {orderId : String} {r : ReservationState ℚ}
    (hl : ledger.reservations.lookup orderId = some r) (hr : r.status = "reserved")
    {status : String} (hstatus : status ∈ terminalLabels)
    (h : ledger.Nonneg → ledger.SumsReserved) :
    (ledger.retire orderId r status).Nonneg →
      (ledger.retire orderId r status).SumsReserved := by
  intro hnonneg'
  have hnonneg := (LedgerState.continues_retire hl hr hstatus).nonneg hnonneg'
  have hsums := h hnonneg
  obtain ⟨hn, hm⟩ := retire_exact hl hr hnonneg hsums status
  have hnotional := sum_reserved_retire (fun r => r.notional) hl hr hstatus
  have hmargin := sum_reserved_retire (fun r => r.margin) hl hr hstatus
  rw [LedgerState.SumsReserved, hn, hm, hsums.1, hsums.2]
  exact ⟨by linarith, by linarith⟩

/-- A credit keeps the sums right. -/
lemma book_sumsReserved {ledger : LedgerState ℚ} {orderId : String}
    (hl : ledger.reservations.lookup orderId = none) {r : ReservationState ℚ}
    (hr : r.status = "reserved") (h : ledger.SumsReserved) :
    (ledger.book orderId r).SumsReserved := by
  refine ⟨?_, ?_⟩
  · rw [sum_reserved_book (fun r => r.notional) hl hr, ← h.1, add_comm]
    rfl
  · rw [sum_reserved_book (fun r => r.margin) hl hr, ← h.2, add_comm]
    rfl

/-- The sweep keeps the totals right. -/
lemma LedgerState.Conserved.expireReservations {ledger : LedgerState ℚ} (h : ledger.Conserved)
    (order : IterationOrder String) (now : ℤ) :
    (expireReservations order ledger now).Conserved := by
  refine expireReservations_induction (fun ledger orderId r hl hr h => ?_) order ledger now h
  exact ⟨retire_countsReserved hl hr (by decide) h.counts,
    retire_sumsReserved hl hr (by decide) h.sums⟩

/-- Booking a new order keeps the totals right. -/
lemma LedgerState.Conserved.book {ledger : LedgerState ℚ} (h : ledger.Conserved)
    {orderId : String} (hl : ledger.reservations.lookup orderId = none)
    {r : ReservationState ℚ} (hr : r.status = "reserved") : (ledger.book orderId r).Conserved :=
  ⟨book_countsReserved hl hr h.counts, fun hnonneg => book_sumsReserved hl hr
    (h.sums ((LedgerState.continues_book hl r).nonneg hnonneg))⟩

/-- One call keeps the totals of every ledger right.

**Proof sketch.** By cases on the step. The counter and the sums are kept right by retiring and by
booking, and a policy does not enter them. -/
lemma LedgerStep.conserved {a : String} {call : Call ℚ} {reply : Reply ℚ}
    {entry entry' : Option (LedgerState ℚ)} (h : LedgerStep a call reply entry entry')
    (hinv : ∀ l, entry = some l → l.Conserved) : ∀ l, entry' = some l → l.Conserved := by
  intro l hl
  cases h with
  | idle => exact hinv l hl
  | sweep reply ledger =>
    cases hl
    exact (hinv ledger rfl).expireReservations _ _
  | book ledger request isReserve account gate new fits =>
    cases hl
    exact ((hinv ledger rfl).expireReservations _ _).book new rfl
  | release ledger request isRelease account reservation found reserved =>
    cases hl
    have hlabel := request.reason.label_mem
    exact ⟨retire_countsReserved found reserved hlabel (hinv ledger rfl).counts,
      retire_sumsReserved found reserved hlabel (hinv ledger rfl).sums⟩
  | create =>
    cases hl
    exact ⟨rfl, fun _ => ⟨rfl, rfl⟩⟩
  | upsert ledger request =>
    cases hl
    exact ⟨(hinv ledger rfl).counts, (hinv ledger rfl).sums⟩

/-- In every reachable state the totals of every ledger are right. -/
lemma conserved_of_reachable {gLedgers : Ledgers ℚ} (h : Reachable gLedgers) {a : String}
    {ledger : LedgerState ℚ} (hl : gLedgers.lookup a = some ledger) : ledger.Conserved :=
  h.invariant (I := fun s : Ledgers ℚ => ∀ l, s.lookup a = some l → l.Conserved)
    (fun call s hs => (ledgerStep_serve a call s).conserved hs) (by simp) ledger hl

/-- **Ledger conservation.** In every state that a run of the service reaches, and for every
account, the cached counter is the number of stored reservations with the status `reserved`;
and if none of the stored reservations carries a negative amount, the cached sums are the sums
of the notionals and margins of the reserved ones.

**Proof sketch.** One call retires, books or leaves alone (`LedgerStep`). A retired reservation
was stored and reserved, so it is part of the count and of the sums: the guard of the counter
holds, and the clamps take no effect on sums of nonnegative amounts. -/
theorem ledger_conservation {gLedgers : Ledgers ℚ} (h : Reachable gLedgers) (a : String)
    (ledger : LedgerState ℚ) (hl : gLedgers.lookup a = some ledger) :
    ledger.reservedOpenOrders = ledger.reserved.length ∧
      (ledger.Nonneg →
        ledger.reservedNotional = (ledger.reserved.map fun r => r.notional).sum ∧
        ledger.reservedMargin = (ledger.reserved.map fun r => r.margin).sum) :=
  ⟨(conserved_of_reachable h hl).counts, (conserved_of_reachable h hl).sums⟩

/-- Two orders reserved, one of them released: the conservation law at work. -/
theorem ledger_conservation_sample :
    ∃ ledger : LedgerState ℚ,
      (service.final [Sample.upsert 1 true, Sample.reserve "o1" 2 0, Sample.reserve "o2" 3 1,
        Sample.release "o1"] ∅).lookup "acc" = some ledger ∧
      ledger.reservedOpenOrders = ledger.reserved.length ∧
      (ledger.Nonneg →
        ledger.reservedNotional = (ledger.reserved.map fun r => r.notional).sum ∧
        ledger.reservedMargin = (ledger.reserved.map fun r => r.margin).sum) :=
  ⟨_, rfl, ledger_conservation (reachable_final [Sample.upsert 1 true, Sample.reserve "o1" 2 0,
    Sample.reserve "o2" 3 1, Sample.release "o1"]) "acc" _ rfl⟩

end AccountRisk
