import QTradeService.AccountRisk.EagerExpiry
import QTradeService.AccountRisk.Lifecycle
import QTradeService.AccountRisk.PolicyVersions
import QTradeService.AccountRisk.SweepOrder
import QTradeService.AccountRisk.Views

set_option relaxedAutoImplicit false
set_option autoImplicit false

/-!
# What clients cannot observe

Three things that a client of the account risk service never learns from its answers, over whole
runs: in which order the loops meet the entries of the reservation map, whether a request was
delivered once or again later, and whether an order it does not name was reserved and finished
before. The first makes a run a function of the requests and the clock readings. The other two
compare runs whose ledgers differ, through the reference service of
`QTradeService.AccountRisk.EagerExpiry`: what the reference cannot tell apart, clients cannot.

## Main definitions

* `AccountRisk.Reply.Permuted` — two answers that differ at most in the order of a list.
* `AccountRisk.EagerLedger.Agree` — two reference ledgers that differ in settled orders only.
* `AccountRisk.Twins` — states whose counterparts in the reference agree.
* `AccountRisk.Call.Silent` — a call that only repeats what is known, or asks.

## Main results

* `AccountRisk.iteration_order_is_unobservable` — the loops may run in any order.
* `AccountRisk.retries_are_unobservable` — silent calls can be inserted anywhere.
* `AccountRisk.finished_orders_are_unobservable` — orders that were reserved and finished.
-/

namespace AccountRisk

/-! ## The order of the loops -/

/-- Two answers that differ at most in the order of a list. -/
inductive Reply.Permuted : Reply ℚ → Reply ℚ → Prop
  | refl (reply : Reply ℚ) : Permuted reply reply
  | list (status : Grpc.Status) {xs ys : List Reservation} (h : xs.Perm ys) :
      Permuted (.listActiveReservations status ⟨xs⟩) (.listActiveReservations status ⟨ys⟩)

/-- Two orders list the same reservations. -/
lemma listInLedger_perm (order order' : IterationOrder String) (l : LedgerState ℚ) :
    (listInLedger order l).reservations.Perm (listInLedger order' l).reservations :=
  ((order.perm _).trans (order'.perm _).symm).filterMap _

/-- On exact ledgers a call does the same for any two orders of its loops, and answers the same
up to the order of a list.

**Proof sketch.** By cases on the request. The loops leave the same ledger in any order since it is
exact, and the list is built in the order of the loop. -/
lemma serve_order (request : Request ℚ) (now : ℤ) (order order' : IterationOrder String)
    {gLedgers : Ledgers ℚ} (h : ∀ a l, gLedgers.lookup a = some l → l.Exact) :
    (serve ⟨request, now, order⟩ gLedgers).1.Permuted (serve ⟨request, now, order'⟩ gLedgers).1 ∧
      (serve ⟨request, now, order⟩ gLedgers).2 = (serve ⟨request, now, order'⟩ gLedgers).2 := by
  cases request with
  | reserveOrder request =>
    simp only [serve, reserveOrder]
    split_ifs
    · exact ⟨.refl _, rfl⟩
    · cases hl : gLedgers.lookup (accountKey request.accountId) with
      | none => exact ⟨.refl _, rfl⟩
      | some l =>
        simp only [(h _ l hl).expireReservations_order order order' now]
        exact ⟨.refl _, trivial⟩
  | queryReservation request =>
    simp only [serve, queryReservation]
    split_ifs
    · exact ⟨.refl _, rfl⟩
    · cases hl : gLedgers.lookup (accountKey request.accountId) with
      | none => exact ⟨.refl _, rfl⟩
      | some l =>
        simp only [(h _ l hl).expireReservations_order order order' now]
        exact ⟨.refl _, trivial⟩
  | listActiveReservations request =>
    simp only [serve, listActiveReservations]
    cases hl : gLedgers.lookup (accountKey request.accountId) with
    | none => exact ⟨.refl _, rfl⟩
    | some l =>
      simp only [(h _ l hl).expireReservations_order order order' now]
      exact ⟨.list _ (listInLedger_perm order order' _), trivial⟩
  | releaseOrder request => exact ⟨.refl _, rfl⟩
  | getAccountRiskPolicy request => exact ⟨.refl _, rfl⟩
  | upsertAccountRiskPolicy request => exact ⟨.refl _, rfl⟩

/-- The ledgers of a reachable state without negative amounts are exact. -/
lemma exact_of_reachable {gLedgers : Ledgers ℚ} (h : Reachable gLedgers)
    (hnonneg : AllNonneg gLedgers) (a : String) (l : LedgerState ℚ)
    (hl : gLedgers.lookup a = some l) : l.Exact where
  nonneg := hnonneg a l hl
  counts := (conserved_of_reachable h hl).counts
  sums := (conserved_of_reachable h hl).sums (hnonneg a l hl)

/-- The run lemma: from a reachable state, two runs with the same requests and clock readings
end in the same state and answer alike.

**Proof sketch.** Induction on the two runs. The state before the first call has no negative
amounts, since the final state has none and amounts never change; so its ledgers are exact, and
the call leaves the same state in both runs. -/
lemma trace_order {calls calls' : List (Call ℚ)}
    (h : List.Forall₂ (fun c c' => c.request = c'.request ∧ c.now = c'.now) calls calls') :
    ∀ {gLedgers : Ledgers ℚ}, Reachable gLedgers → AllNonneg (service.final calls gLedgers) →
      service.final calls gLedgers = service.final calls' gLedgers ∧
        List.Forall₂ Reply.Permuted ((service.trace calls gLedgers).map Prod.snd)
          ((service.trace calls' gLedgers).map Prod.snd) := by
  induction h with
  | nil => exact fun _ _ => ⟨rfl, .nil⟩
  | @cons c c' cs cs' hcall _ ih =>
    intro gLedgers hreach hnonneg
    obtain ⟨request, now, order⟩ := c
    obtain ⟨request', now', order'⟩ := c'
    obtain ⟨rfl, rfl⟩ : request = request' ∧ now = now' := hcall
    have hexact := exact_of_reachable hreach hnonneg.of_final
    obtain ⟨hans, hafter⟩ := serve_order request now order order' hexact
    have hreach' : Reachable (service.step ⟨request, now, order⟩ gLedgers).2 :=
      hreach.final [⟨request, now, order⟩]
    obtain ⟨hfinal, htrace⟩ := ih hreach' hnonneg
    have hstep : (service.step ⟨request, now, order⟩ gLedgers).2 =
        (service.step ⟨request, now, order'⟩ gLedgers).2 := hafter
    rw [hstep] at hfinal htrace
    refine ⟨by rwa [Machine.final_cons, hstep], .cons hans ?_⟩
    rwa [hstep]

/-- **The order of the loops is unobservable.** Take two runs of the service with the same
requests and the same clock readings, in which the loops over the reservation maps meet the
entries in any orders whatever, and let no stored amount be negative. Both runs end in the same
state, cached totals included, and every call has the same answer in both, up to the order in
which active reservations are listed.

**Proof sketch.** Every ledger on the way is exact, so that a sweep of it does not depend on its
order (`trace_order`). -/
theorem iteration_order_is_unobservable (calls calls' : List (Call ℚ))
    (hcalls : List.Forall₂ (fun c c' => c.request = c'.request ∧ c.now = c'.now) calls calls')
    (hnonneg : ∀ a l, (service.final calls ∅).lookup a = some l → l.Nonneg) :
    service.final calls ∅ = service.final calls' ∅ ∧
      List.Forall₂ Reply.Permuted ((service.trace calls ∅).map Prod.snd)
        ((service.trace calls' ∅).map Prod.snd) :=
  trace_order hcalls (.refl _) hnonneg

/-- The list of two reservations, in the stored order and backwards. -/
theorem iteration_order_is_unobservable_sample :
    let calls := [Sample.upsert 1 true, Sample.reserve "o1" 2 0, Sample.reserve "o2" 3 1]
    let list : IterationOrder String → Call ℚ := fun order =>
      ⟨.listActiveReservations ⟨"acc"⟩, 300000, order⟩
    let backwards : IterationOrder String := ⟨List.reverse, List.reverse_perm⟩
    service.final (calls ++ [list .stored]) ∅ = service.final (calls ++ [list backwards]) ∅ ∧
      List.Forall₂ Reply.Permuted ((service.trace (calls ++ [list .stored]) ∅).map Prod.snd)
        ((service.trace (calls ++ [list backwards]) ∅).map Prod.snd) :=
  iteration_order_is_unobservable _ _
    (.cons ⟨rfl, rfl⟩ (.cons ⟨rfl, rfl⟩ (.cons ⟨rfl, rfl⟩ (.cons ⟨rfl, rfl⟩ .nil))))
    (UnorderedMap.forall_entries (p := fun _ l => LedgerState.Nonneg l) |>.mp (by decide +kernel))

/-! ## What clients can tell apart -/

/-- A view is the same as itself. -/
lemma Reservation.Same.refl (x : Reservation) : x.Same x := ⟨rfl, rfl, rfl, .rfl⟩

/-- An answer is the same as itself. -/
lemma SameAnswer.refl (x : Reply ℚ) : SameAnswer x x := by
  cases x with
  | queryReservation status response =>
    refine ⟨rfl, ?_⟩
    cases response.reservation with
    | none => exact .none
    | some r => exact .some (.refl r)
  | listActiveReservations status response => exact ⟨rfl, .refl _⟩
  | upsertAccountRiskPolicy status => exact rfl
  | _ => exact ⟨rfl, rfl⟩

/-- Two views that are the same as a third are the same. -/
lemma Reservation.Same.of_common {x y z : Reservation} (hx : x.Same z) (hy : y.Same z) :
    x.Same y :=
  ⟨hx.orderId.trans hy.orderId.symm, hx.reservationId.trans hy.reservationId.symm,
    hx.expiresAtUnixMs.trans hy.expiresAtUnixMs.symm, hx.reserved.trans hy.reserved.symm⟩

/-- Two answers that clients cannot tell apart from a third are the same to them.

**Proof sketch.** By cases on the third answer, which fixes the kind of the other two; each clause
is an equation or a permutation. -/
lemma SameAnswer.of_common {x y z : Reply ℚ} (hx : SameAnswer x z) (hy : SameAnswer y z) :
    SameAnswer x y := by
  cases z with
  | queryReservation status response =>
    cases x <;> cases y <;> first | exact hx.elim | exact hy.elim | skip
    rename_i _ x _ y
    refine ⟨hx.1.trans hy.1.symm, ?_⟩
    have hx := hx.2
    have hy := hy.2
    generalize x.reservation = x, y.reservation = y, response.reservation = z at hx hy
    cases hx with
    | none => cases hy; exact .none
    | some hx => cases hy with | some hy => exact .some (hx.of_common hy)
  | upsertAccountRiskPolicy status =>
    cases x <;> cases y <;> first | exact hx.elim | exact hy.elim | skip
    exact Eq.trans hx (Eq.symm hy)
  | _ =>
    cases x <;> cases y <;> first | exact hx.elim | exact hy.elim | skip
    exact ⟨hx.1.trans hy.1.symm, hx.2.trans hy.2.symm⟩

/-! ## Reference ledgers that differ in settled orders -/

/-- A reservation of the reference that is over at `t` and has no negative amount. -/
structure EagerReservation.Settled (t : ℤ) (q : EagerReservation) : Prop where
  inactive : q.activeAt t = false
  notional : 0 ≤ q.notional
  margin : 0 ≤ q.margin

/-- What is over stays over. -/
lemma EagerReservation.Settled.mono {t now : ℤ} (ht : t ≤ now) {q : EagerReservation}
    (h : q.Settled t) : q.Settled now := by
  refine { h with inactive := ?_ }
  have hinactive := h.inactive
  simp only [activeAt, Bool.and_eq_false_iff, decide_eq_false_iff_not, not_lt] at hinactive ⊢
  exact hinactive.imp id fun hle => hle.trans ht

/-- Two ledgers of the reference that agree on the visible orders and in which the hidden ones
are over at `t`. -/
structure EagerLedger.Agree (visible : String → Prop) (t : ℤ) (e e' : EagerLedger) : Prop where
  policy : e.policy = e'.policy
  lookup_eq : ∀ o, visible o → e.reservations.lookup o = e'.reservations.lookup o
  settled : ∀ o q, ¬visible o → e.reservations.lookup o = some q → q.Settled t
  settled' : ∀ o q, ¬visible o → e'.reservations.lookup o = some q → q.Settled t

section Agree

variable {visible : String → Prop} {t now : ℤ} {e e' : EagerLedger}

/-- Time passes. -/
lemma EagerLedger.Agree.mono (ht : t ≤ now) (h : Agree visible t e e') :
    Agree visible now e e' where
  policy := h.policy
  lookup_eq := h.lookup_eq
  settled o q hv hq := (h.settled o q hv hq).mono ht
  settled' o q hv hq := (h.settled' o q hv hq).mono ht

/-- Ledgers that agree have the same active reservations, up to their order: the hidden ones are
not active. -/
lemma EagerLedger.Agree.active_perm (h : Agree visible now e e') :
    (e.active now).Perm (e'.active now) := by
  refine UnorderedMap.perm_filter_entries fun o q hactive => ?_
  by_cases hv : visible o
  · rw [h.lookup_eq o hv]
  · have hover : ¬q.Settled now := fun hq => by
      rw [hq.inactive] at hactive
      cases hactive
    exact ⟨fun hq => absurd (h.settled o q hv hq) hover,
      fun hq => absurd (h.settled' o q hv hq) hover⟩

/-- Ledgers that agree pass the same limit checks. -/
lemma EagerLedger.Agree.exceeded_eq (h : Agree visible now e e') (notional margin : ℚ) :
    e.exceeded now notional margin = e'.exceeded now notional margin := by
  rw [exceeded, exceeded, h.policy, h.active_perm.length_eq, (h.active_perm.map _).sum_eq,
    (h.active_perm.map _).sum_eq]

/-- A new visible order is stored in both. -/
lemma EagerLedger.Agree.insert (h : Agree visible t e e') {orderId : String}
    (hv : visible orderId) (q : EagerReservation) :
    Agree visible t { e with reservations := e.reservations.insert orderId q }
      { e' with reservations := e'.reservations.insert orderId q } := by
  have hne : ∀ o, ¬visible o → o ≠ orderId := fun o ho hk => ho (hk ▸ hv)
  refine ⟨h.policy, fun o ho => ?_, fun o r ho hr => ?_, fun o r ho hr => ?_⟩
  · by_cases hk : o = orderId
    · subst hk
      rw [AList.lookup_insert, AList.lookup_insert]
    · rw [AList.lookup_insert_ne hk, AList.lookup_insert_ne hk, h.lookup_eq o ho]
  · rw [AList.lookup_insert_ne (hne o ho)] at hr
    exact h.settled o r ho hr
  · rw [AList.lookup_insert_ne (hne o ho)] at hr
    exact h.settled' o r ho hr

/-- A visible order is overwritten in both.

**Proof sketch.** At a visible order both entries are overwritten with the same function, and no
hidden order is touched. -/
lemma EagerLedger.Agree.modify (h : Agree visible t e e') {orderId : String}
    (hv : visible orderId) (f : EagerReservation → EagerReservation) :
    Agree visible t { e with reservations := e.reservations.modify orderId f }
      { e' with reservations := e'.reservations.modify orderId f } := by
  have hne : ∀ o, ¬visible o → o ≠ orderId := fun o ho hk => ho (hk ▸ hv)
  refine ⟨h.policy, fun o ho => ?_, fun o r ho hr => ?_, fun o r ho hr => ?_⟩
  · by_cases hk : o = orderId
    · subst hk
      rw [UnorderedMap.lookup_modify_self, UnorderedMap.lookup_modify_self, h.lookup_eq o ho]
    · rw [UnorderedMap.lookup_modify_of_ne hk, UnorderedMap.lookup_modify_of_ne hk,
        h.lookup_eq o ho]
  · rw [UnorderedMap.lookup_modify_of_ne (hne o ho)] at hr
    exact h.settled o r ho hr
  · rw [UnorderedMap.lookup_modify_of_ne (hne o ho)] at hr
    exact h.settled' o r ho hr

/-- A visible order is answered alike on ledgers that agree, which go on to agree.

**Proof sketch.** The gates and the limits are the same, and so is the entry of the order. Only an
order that passes them all is stored, on both. -/
lemma EagerLedger.Agree.reserve (h : Agree visible now e e') (request : ReserveOrderRequest ℚ)
    (hv : visible request.intent.orderId) :
    (e.reserve now request).1 = (e'.reserve now request).1 ∧
      Agree visible now (e.reserve now request).2 (e'.reserve now request).2 := by
  simp only [EagerLedger.reserve, h.policy, h.exceeded_eq, h.lookup_eq _ hv]
  cases e'.policy.refusal now request.riskConfigVersion with
  | some reason => exact ⟨rfl, h⟩
  | none =>
    cases e'.reservations.lookup request.intent.orderId with
    | some q => exact ⟨rfl, h⟩
    | none =>
      have hinsert := h.insert hv (request.eagerReservation now)
      cases e'.exceeded now (request.eagerReservation now).notional
          (request.eagerReservation now).margin with
      | some reason => exact ⟨rfl, h⟩
      | none => exact ⟨rfl, by rwa [h.policy] at hinsert⟩

end Agree

/-- A call on an account without a ledger leaves none, or creates one without reservations. -/
lemma eagerServe_none_agree {visible : String → Prop} {t : ℤ} (call : Call ℚ) :
    Option.Rel (EagerLedger.Agree visible t) (eagerServe call none).2
      (eagerServe call none).2 := by
  obtain ⟨request, now, order⟩ := call
  cases request with
  | upsertAccountRiskPolicy request =>
    simp only [eagerServe]
    split_ifs
    · exact .none
    · exact .some ⟨rfl, fun _ _ => rfl, fun _ _ _ hq => (Option.some_ne_none _ hq.symm).elim,
        fun _ _ _ hq => (Option.some_ne_none _ hq.symm).elim⟩
  | reserveOrder request => simp only [eagerServe]; split_ifs <;> exact .none
  | queryReservation request => simp only [eagerServe]; split_ifs <;> exact .none
  | releaseOrder request => simp only [eagerServe]; split_ifs <;> exact .none
  | listActiveReservations request => exact .none
  | getAccountRiskPolicy request => exact .none

/-- The order that a request names. -/
def Request.orderId {α : Type} : Request α → Option String
  | .reserveOrder request => some request.intent.orderId
  | .queryReservation request => some request.orderId
  | .releaseOrder request => some request.orderId
  | _ => none

/-- A call of the reference that names no hidden order has the same answer on ledgers that
agree, as far as clients can tell, and leaves ledgers that agree.

**Proof sketch.** By cases on whether the ledgers are there, and on the request. The order that a
request names is visible, so that both ledgers have the same entry for it. The entries of a list are
active, and so the same on both. -/
lemma eagerServe_agree {visible : String → Prop} {t : ℤ} {call : Call ℚ} (ht : t ≤ call.now)
    (hv : ∀ o, call.request.orderId = some o → visible o)
    {entry entry' : Option EagerLedger}
    (h : Option.Rel (EagerLedger.Agree visible t) entry entry') :
    SameAnswer (eagerServe call entry).1 (eagerServe call entry').1 ∧
      Option.Rel (EagerLedger.Agree visible call.now) (eagerServe call entry).2
        (eagerServe call entry').2 := by
  cases h with
  | none => exact ⟨.refl _, eagerServe_none_agree call⟩
  | @some e e' h =>
    replace h := h.mono ht
    obtain ⟨request, now, order⟩ := call
    cases request with
    | reserveOrder request =>
      obtain ⟨hresponse, hafter⟩ := h.reserve request (hv _ rfl)
      simp only [eagerServe]
      split_ifs
      · exact ⟨.refl _, .some h⟩
      · rw [hresponse]
        exact ⟨.refl _, .some hafter⟩
    | queryReservation request =>
      have hv := hv _ rfl
      simp only [eagerServe]
      split_ifs
      · exact ⟨.refl _, .some h⟩
      · rw [h.lookup_eq _ hv]
        cases e'.reservations.lookup request.orderId with
        | none => exact ⟨.refl _, .some h⟩
        | some q => exact ⟨.refl _, .some h⟩
    | releaseOrder request =>
      have hv := hv _ rfl
      simp only [eagerServe]
      split_ifs
      · exact ⟨.refl _, .some h⟩
      · exact ⟨.refl _, .some (h.modify hv _)⟩
    | listActiveReservations request =>
      exact ⟨⟨rfl, h.active_perm.map _⟩, .some h⟩
    | getAccountRiskPolicy request =>
      simp only [eagerServe, h.policy]
      exact ⟨.refl _, .some h⟩
    | upsertAccountRiskPolicy request =>
      simp only [eagerServe, h.policy]
      split_ifs
      · exact ⟨.refl _, .some h⟩
      · exact ⟨.refl _, .some h⟩
      · exact ⟨.refl _, .some ⟨rfl, h.lookup_eq, h.settled, h.settled'⟩⟩

/-! ## Twins -/

/-- Two states at the time `t` whose counterparts in the reference agree on the visible orders
of every account. -/
def Twins (visible : String → String → Prop) (t : ℤ) (gLedgers gLedgers' : Ledgers ℚ) : Prop :=
  ∃ ledgers ledgers' : String → Option EagerLedger,
    (∀ a, Mirrors t (gLedgers.lookup a) (ledgers a)) ∧
    (∀ a, Mirrors t (gLedgers'.lookup a) (ledgers' a)) ∧
    ∀ a, Option.Rel (EagerLedger.Agree (visible a) t) (ledgers a) (ledgers' a)

/-- A ledger has no negative amount if its twin has none: the visible amounts are those of the
twin, and the hidden ones are settled.

**Proof sketch.** By whether the order is visible. If it is, the other ledger has an entry with the
same amounts; if not, its entry in the reference is settled. -/
lemma LedgerState.Mirrors.nonneg_of_agree {visible : String → Prop} {t : ℤ}
    {l l' : LedgerState ℚ} {e e' : EagerLedger} (h : l.Mirrors t e) (h' : l'.Mirrors t e')
    (hagree : EagerLedger.Agree visible t e e') (hnonneg : l.Nonneg) : l'.Nonneg := by
  intro orderId r' hr'
  have hlookup' := h'.reservations.lookup orderId
  rw [hr'] at hlookup'
  cases hq' : e'.reservations.lookup orderId with
  | none => rw [hq'] at hlookup'; cases hlookup'
  | some q' =>
    rw [hq'] at hlookup'
    cases hlookup' with
    | some hmirror =>
      rw [hmirror.notional, hmirror.margin]
      by_cases hv : visible orderId
      · have hlookup := h.reservations.lookup orderId
        rw [hagree.lookup_eq _ hv, hq'] at hlookup
        cases hr : l.reservations.lookup orderId with
        | none => rw [hr] at hlookup; cases hlookup
        | some r =>
          rw [hr] at hlookup
          cases hlookup with
          | some hrq' =>
            rw [← hrq'.notional, ← hrq'.margin]
            exact hnonneg orderId r hr
      · have hsettled := hagree.settled' _ _ hv hq'
        exact ⟨hsettled.notional, hsettled.margin⟩

/-- Whether a call may be issued in front of hidden orders: it names none of them. -/
def Call.Allowed (visible : String → String → Prop) (call : Call ℚ) : Prop :=
  ∀ o, call.request.orderId = some o → visible call.account o

/-- The counterpart of a state after a call is the state of the reference after the call. -/
lemma mirrors_serve {t : ℤ} {call : Call ℚ} (ht : t ≤ call.now) {gLedgers : Ledgers ℚ}
    (hnonneg : AllNonneg gLedgers) {ledgers : String → Option EagerLedger}
    (h : ∀ a, Mirrors t (gLedgers.lookup a) (ledgers a)) :
    SameAnswer (serve call gLedgers).1 (eagerServe call (ledgers call.account)).1 ∧
      ∀ a, Mirrors call.now ((serve call gLedgers).2.lookup a)
        ((eagerService.step call ledgers).2 a) :=
  lazySimulation.step t call gLedgers ledgers ⟨ht, hnonneg⟩ h

/-- Twins answer a call alike, as far as clients can tell, and stay twins, if the call names no
hidden order.

**Proof sketch.** Both ledgers are mirrored by references, which serve the call alike; the twin has
no negative amount either, so that the mirroring goes on. The other accounts are left alone. -/
lemma Twins.serve {visible : String → String → Prop} {t : ℤ} {call : Call ℚ}
    (ht : t ≤ call.now) (hallowed : call.Allowed visible) {gLedgers gLedgers' : Ledgers ℚ}
    (hnonneg : AllNonneg gLedgers) (h : Twins visible t gLedgers gLedgers') :
    SameAnswer (AccountRisk.serve call gLedgers).1 (AccountRisk.serve call gLedgers').1 ∧
      Twins visible call.now (AccountRisk.serve call gLedgers).2
        (AccountRisk.serve call gLedgers').2 := by
  obtain ⟨ledgers, ledgers', hmirrors, hmirrors', hagree⟩ := h
  have hnonneg' : AllNonneg gLedgers' := by
    intro a l' hl'
    have h' := hmirrors' a
    have hab := hagree a
    have h := hmirrors a
    rw [hl'] at h'
    generalize ledgers' a = entry' at h' hab
    generalize ledgers a = entry at h hab
    cases h' with
    | some h' =>
      cases hab with
      | some hab =>
        cases hl : gLedgers.lookup a with
        | none => rw [hl] at h; cases h
        | some l =>
          rw [hl] at h
          cases h with
          | some h => exact h.nonneg_of_agree h' hab (hnonneg a l hl)
  obtain ⟨hans, hafter⟩ := mirrors_serve ht hnonneg hmirrors
  obtain ⟨hans', hafter'⟩ := mirrors_serve ht hnonneg' hmirrors'
  obtain ⟨hsame, hrel⟩ := eagerServe_agree ht hallowed (hagree call.account)
  refine ⟨hans.of_common (hans'.of_common hsame), _, _, hafter, hafter', fun a => ?_⟩
  by_cases ha : a = call.account
  · subst ha
    simpa only [eagerService, Function.update_self] using hrel
  · simp only [eagerService, Function.update_of_ne ha]
    have hab := hagree a
    generalize ledgers a = entry, ledgers' a = entry' at hab
    cases hab with
    | none => exact .none
    | some hab => exact .some (hab.mono ht)

/-- The service simulates itself on twins. -/
def twinSimulation (visible : String → String → Prop) :
    Machine.Simulation (ι := ℤ) (service (α := ℚ)) service where
  guard t call gLedgers := (t ≤ call.now ∧ call.Allowed visible) ∧ AllNonneg gLedgers
  next _ call := call.now
  rel := Twins visible
  answers _ := SameAnswer
  step _ _ _ _ := fun ⟨⟨ht, hallowed⟩, hnonneg⟩ h => h.serve ht hallowed hnonneg

/-! ## Calls that may be repeated -/

/-- A call that asks, or repeats what the service knows: a `ReserveOrder` that is rejected or
whose order has an entry, a `ReleaseOrder` whose order is not active, and an upsert that is
refused or brings the stored policy. -/
def Call.Silent (call : Call ℚ) (gLedgers : Ledgers ℚ) : Prop :=
  match call.request with
  | .reserveOrder request =>
    (serve call gLedgers).1.isApproved = true →
      (reservationOf gLedgers request.accountId request.intent.orderId).isSome = true
  | .releaseOrder request =>
    ∀ r ∈ reservationOf gLedgers request.accountId request.orderId, ¬r.activeAt call.now
  | .upsertAccountRiskPolicy request =>
    (serve call gLedgers).1 = .upsertAccountRiskPolicy .OK →
      policyOf gLedgers request.policy.accountId = some request.policy
  | _ => True

/-- Clients can tell whether an answer approves. -/
lemma SameAnswer.isApproved {x y : Reply ℚ} (h : SameAnswer x y) : x.isApproved = y.isApproved := by
  cases x <;> cases y <;> first | exact h.elim | rfl | skip
  rw [Reply.isApproved, Reply.isApproved, h.2]

/-- Clients can tell the status of an upsert. -/
lemma SameAnswer.eq_upsert {x : Reply ℚ} {status : Grpc.Status}
    (h : SameAnswer x (.upsertAccountRiskPolicy status)) : x = .upsertAccountRiskPolicy status := by
  cases x <;> first | exact h.elim | exact congrArg _ h

/-- An account with a counterpart in the reference has a ledger that the counterpart mirrors. -/
lemma Mirrors.exists_ledger {t : ℤ} {entry : Option (LedgerState ℚ)} {e : EagerLedger}
    (h : Mirrors t entry (some e)) : ∃ l, entry = some l ∧ l.Mirrors t e := by
  cases h with
  | some h => exact ⟨_, rfl, h⟩

/-- An order has a counterpart in the reference exactly if it has an entry in the ledger, and
they mirror each other. -/
lemma Mirrors.reservationOf {t : ℤ} {gLedgers : Ledgers ℚ} {a : String} {e : EagerLedger}
    (h : Mirrors t (gLedgers.lookup a) (some e)) (orderId : String) :
    Option.Rel (ReservationState.Mirrors t) (reservationOf gLedgers a orderId)
      (e.reservations.lookup orderId) := by
  obtain ⟨l, hl, hle⟩ := h.exists_ledger
  rw [AccountRisk.reservationOf, hl, Option.bind_some]
  exact hle.reservations.lookup orderId

/-- `ReserveOrder` changes the reference only if it approves an order that has no entry.

**Proof sketch.** By what the gates, the lookup and the limits answer: only a new order that passes
them all is stored, and that one is approved. -/
lemma eagerServe_reserveOrder {request : ReserveOrderRequest ℚ} {now : ℤ}
    {order : IterationOrder String} {entry : Option EagerLedger}
    (h : (eagerServe ⟨.reserveOrder request, now, order⟩ entry).1.isApproved = true →
      ∀ e, entry = some e → e.reservations.lookup request.intent.orderId ≠ none) :
    (eagerServe ⟨.reserveOrder request, now, order⟩ entry).2 = entry := by
  cases entry with
  | none =>
    simp only [eagerServe]
    split_ifs <;> rfl
  | some e =>
    simp only [eagerServe, EagerLedger.reserve] at h ⊢
    split_ifs with hids
    · rfl
    rw [if_neg hids] at h
    cases hrefusal : e.policy.refusal now request.riskConfigVersion with
    | some reason => rfl
    | none =>
      cases hl : e.reservations.lookup request.intent.orderId with
      | some q => rfl
      | none =>
        cases hexceeded : e.exceeded now (request.eagerReservation now).notional
            (request.eagerReservation now).margin with
        | some reason => rfl
        | none =>
          have happroved := h (by simp [hrefusal, hl, hexceeded, Reply.isApproved])
          exact absurd hl (happroved e rfl)

/-- `ReleaseOrder` changes the reference only if it meets an active reservation. -/
lemma eagerServe_releaseOrder {request : ReleaseOrderRequest} {now : ℤ}
    {order : IterationOrder String} {entry : Option EagerLedger}
    (h : ∀ e, entry = some e → ∀ q, e.reservations.lookup request.orderId = some q →
      q.activeAt now ≠ true) :
    (eagerServe ⟨.releaseOrder request, now, order⟩ entry).2 = entry := by
  cases entry with
  | none =>
    simp only [eagerServe]
    split_ifs <;> rfl
  | some e =>
    simp only [eagerServe]
    split_ifs
    · rfl
    refine congrArg some (congrArg (EagerLedger.mk e.policy) ?_)
    exact UnorderedMap.modify_eq_self fun q hq => if_neg (h e rfl q hq)

/-- `UpsertAccountRiskPolicy` changes the reference only if it is answered with `OK` and stores a
policy that was not there.

**Proof sketch.** By whether the ledger is there: a policy is stored only if the answer is `OK`, and
then it is the one already stored. -/
lemma eagerServe_upsertAccountRiskPolicy {request : UpsertAccountRiskPolicyRequest ℚ} {now : ℤ}
    {order : IterationOrder String} {entry : Option EagerLedger}
    (h : (eagerServe ⟨.upsertAccountRiskPolicy request, now, order⟩ entry).1 =
      .upsertAccountRiskPolicy .OK → entry.map EagerLedger.policy = some request.policy) :
    (eagerServe ⟨.upsertAccountRiskPolicy request, now, order⟩ entry).2 = entry := by
  cases entry with
  | none =>
    simp only [eagerServe] at h ⊢
    split_ifs with hvalid
    · rfl
    · rw [if_neg hvalid] at h
      cases h rfl
  | some e =>
    simp only [eagerServe] at h ⊢
    split_ifs with hvalid hdecrease
    · rfl
    · rfl
    · rw [if_neg hvalid, if_neg hdecrease] at h
      rw [← Option.some.inj (h rfl)]

/-- `QueryReservation` does not change the reference. -/
lemma eagerServe_queryReservation (request : GetReservationRequest) (now : ℤ)
    (order : IterationOrder String) (entry : Option EagerLedger) :
    (eagerServe ⟨.queryReservation request, now, order⟩ entry).2 = entry := by
  cases entry with
  | none =>
    simp only [eagerServe]
    split_ifs <;> rfl
  | some e =>
    simp only [eagerServe]
    split_ifs
    · rfl
    · cases e.reservations.lookup request.orderId <;> rfl

/-- A silent call leaves the reference alone.

**Proof sketch.** What the reference would change, the call has not: an order that the reference
books has an entry in the ledger, hence one in the reference; a reservation that is active in the
reference is active in the ledger, and a silent release meets none; and a silent upsert stores the
policy that is there. -/
lemma eagerServe_of_silent {t : ℤ} {call : Call ℚ} (ht : t ≤ call.now) {gLedgers : Ledgers ℚ}
    (hnonneg : AllNonneg gLedgers) {entry : Option EagerLedger}
    (h : Mirrors t (gLedgers.lookup call.account) entry) (hsilent : call.Silent gLedgers) :
    (eagerServe call entry).2 = entry := by
  have hans := (lazyExpiry ht h fun l hl => hnonneg _ l hl).1
  obtain ⟨request, now, order⟩ := call
  cases request with
  | reserveOrder request =>
    refine eagerServe_reserveOrder fun happroved e he hl => ?_
    subst he
    have hentry : Option.Rel (ReservationState.Mirrors t)
        (reservationOf gLedgers request.accountId request.intent.orderId) _ :=
      Mirrors.reservationOf h request.intent.orderId
    simp only [Call.Silent] at hsilent
    rw [hans.isApproved] at hsilent
    obtain ⟨r, hr⟩ := Option.isSome_iff_exists.mp (hsilent happroved)
    rw [hr, hl] at hentry
    cases hentry
  | releaseOrder request =>
    refine eagerServe_releaseOrder fun e he q hq hactive => ?_
    subst he
    have hentry : Option.Rel (ReservationState.Mirrors t)
        (reservationOf gLedgers request.accountId request.orderId) _ :=
      Mirrors.reservationOf h request.orderId
    rw [hq] at hentry
    cases hr : reservationOf gLedgers request.accountId request.orderId with
    | none =>
      rw [hr] at hentry
      cases hentry
    | some r =>
      rw [hr] at hentry
      cases hentry with
      | some hrq => exact hsilent r hr ((hrq.activeAt_iff ht).mpr hactive)
  | upsertAccountRiskPolicy request =>
    refine eagerServe_upsertAccountRiskPolicy fun hok => ?_
    rw [hok] at hans
    have hpolicy := hsilent hans.eq_upsert
    cases hl : gLedgers.lookup request.policy.accountId with
    | none =>
      rw [policyOf, hl] at hpolicy
      cases hpolicy
    | some l =>
      rw [policyOf, hl] at hpolicy
      rw [Call.account, Request.account, hl] at h
      cases h with
      | some hle =>
        rw [Option.map_some, hle.policy] at hpolicy
        exact hpolicy
  | queryReservation request => exact eagerServe_queryReservation request now order entry
  | listActiveReservations request => cases entry <;> rfl
  | getAccountRiskPolicy request => cases entry <;> rfl

/-- A silent call on one of two twins leaves twins.

**Proof sketch.** A silent call leaves the reference as it was, so that the references still agree;
a later time only lets more orders lapse. -/
lemma Twins.serve_silent {visible : String → String → Prop} {t : ℤ} {call : Call ℚ}
    (ht : t ≤ call.now) {gLedgers gLedgers' : Ledgers ℚ} (hnonneg : AllNonneg gLedgers)
    (hsilent : call.Silent gLedgers) (h : Twins visible t gLedgers gLedgers') :
    Twins visible call.now (AccountRisk.serve call gLedgers).2 gLedgers' := by
  obtain ⟨ledgers, ledgers', hmirrors, hmirrors', hagree⟩ := h
  have hafter := (mirrors_serve ht hnonneg hmirrors).2
  have hsame : (eagerService.step call ledgers).2 = ledgers := by
    simp only [eagerService, eagerServe_of_silent ht hnonneg (hmirrors _) hsilent,
      Function.update_eq_self]
  rw [hsame] at hafter
  refine ⟨ledgers, ledgers', hafter, fun a => (hmirrors' a).mono ht, fun a => ?_⟩
  have hab := hagree a
  generalize ledgers a = entry, ledgers' a = entry' at hab
  cases hab with
  | none => exact .none
  | some hab => exact .some (hab.mono ht)

/-- The reading of a reservation in the reference, where a terminal one counts as released. -/
def ReservationState.eager (r : ReservationState ℚ) : EagerReservation where
  reservationId := r.reservationId
  notional := r.notional
  margin := r.margin
  expiresAtUnixMs := r.expiresAtUnixMs
  released := decide (r.status ≠ "reserved")

/-- The reading of a ledger in the reference. -/
def LedgerState.eager (l : LedgerState ℚ) : EagerLedger where
  policy := l.policy
  reservations := UnorderedMap.mapEntries (fun _ r => r.eager) l.reservations

/-- A ledger whose totals are right mirrors its own reading, at any time. -/
lemma LedgerState.Conserved.mirrors_eager {l : LedgerState ℚ} (h : l.Conserved) (t : ℤ) :
    l.Mirrors t l.eager where
  policy := rfl
  reservations := by
    have hsame : UnorderedMap.Related (fun r s => r = s) l.reservations l.reservations :=
      List.forall₂_same.mpr fun _ _ => ⟨rfl, rfl⟩
    refine hsame.mapEntries_right fun r s hrs => ?_
    subst hrs
    exact ⟨rfl, rfl, rfl, rfl, by simp [ReservationState.eager],
      fun hr => .inl (by simp [ReservationState.eager, hr])⟩
  conserved := h

/-- The readings of the ledgers of a reachable state are counterparts of them. -/
lemma mirrors_eager {gLedgers : Ledgers ℚ} (h : Reachable gLedgers) (t : ℤ) (a : String) :
    Mirrors t (gLedgers.lookup a) ((gLedgers.lookup a).map LedgerState.eager) := by
  cases hl : gLedgers.lookup a with
  | none => exact .none
  | some l => exact .some ((conserved_of_reachable h hl).mirrors_eager t)

/-- A reachable state is its own twin. -/
lemma Twins.refl {gLedgers : Ledgers ℚ} (h : Reachable gLedgers) (t : ℤ) :
    Twins (fun _ _ => True) t gLedgers gLedgers := by
  refine ⟨_, _, mirrors_eager h t, mirrors_eager h t, fun a => ?_⟩
  cases (gLedgers.lookup a).map LedgerState.eager with
  | none => exact .none
  | some e => exact .some ⟨rfl, fun _ _ => rfl, fun _ _ hv => (hv trivial).elim,
      fun _ _ hv => (hv trivial).elim⟩

/-! ## Retries -/

/-- A call that decides about its order for good: a `ReserveOrder` that is approved, or a
`ReleaseOrder` whose order has an entry. -/
def Call.Settles (call : Call ℚ) (gLedgers : Ledgers ℚ) : Prop :=
  match call.request with
  | .reserveOrder _ => (serve call gLedgers).1.isApproved = true
  | .releaseOrder request =>
    (reservationOf gLedgers request.accountId request.orderId).isSome = true
  | _ => False

/-- A call repeats the request of an earlier one that decided about the order. -/
def Call.Retries (call : Call ℚ) (earlier : List (Call ℚ)) : Prop :=
  ∃ before first between, earlier = before ++ first :: between ∧
    first.request = call.request ∧ first.Settles (service.final before ∅)

/-- A retry is silent, whatever happened in between: the order of an approved `ReserveOrder`
keeps its entry, and the order of a `ReleaseOrder` that found one never becomes active again.

**Proof sketch.** By cases on the request. The order of an approved `ReserveOrder` keeps its entry.
The entry of a released order is terminal and stays so; no entry is filed without an account or a
name, so that the release was not refused. -/
lemma Call.Retries.silent {call : Call ℚ} {earlier : List (Call ℚ)} (h : call.Retries earlier) :
    call.Silent (service.final earlier ∅) := by
  obtain ⟨before, first, between, rfl, hreq, hsettles⟩ := h
  rw [Machine.final_append, Machine.final_cons]
  set gLedgers := service.final before ∅ with hstart
  show call.Silent (service.final between (serve first gLedgers).2)
  unfold Call.Silent
  unfold Call.Settles at hsettles
  cases hcall : call.request with
  | reserveOrder request =>
    rw [hcall] at hreq
    simp only [hreq] at hsettles
    obtain ⟨-, r, -, hr, -⟩ := reserved_of_approved hreq hsettles
    obtain ⟨r', hr', -⟩ := reservationOf_final hr between
    exact fun _ => Option.isSome_iff_exists.mpr ⟨r', hr'⟩
  | releaseOrder request =>
    rw [hcall] at hreq
    simp only [hreq] at hsettles
    obtain ⟨r, hr⟩ := Option.isSome_iff_exists.mp hsettles
    have hreach : Reachable gLedgers := hstart ▸ reachable_final before
    have haccount : request.accountId ≠ "" := fun ha => by
      rw [ha, reservationOf, lookup_empty_of_reachable hreach] at hr
      cases hr
    have horder : request.orderId ≠ "" := fun ho => by
      rw [ho, reservationOf_empty_of_reachable hreach] at hr
      cases hr
    obtain ⟨l, hl, hlr⟩ := reservationOf_eq_some.mp hr
    have hreply : (serve first gLedgers).1 = .releaseOrder .OK { released := true } := by
      simp [serve, hreq, releaseOrder, haccount, horder, accountKey, hl, releaseInLedger, hlr]
    obtain ⟨r', hr', hterminal⟩ := released_of_found hreq hreply hr
    obtain ⟨r'', hr'', hcontinues⟩ := reservationOf_final hr' between
    intro s hs hactive
    obtain rfl : s = r'' := Option.some.inj (Eq.trans (Option.mem_def.mp hs).symm hr'')
    exact hterminal (hcontinues.reserved hactive.1)
  | upsertAccountRiskPolicy request =>
    rw [hcall] at hreq
    simp only [hreq] at hsettles
  | _ => trivial

/-- Silent calls that one of two twins is given keep the answers to the other calls.

**Proof sketch.** The runs are related step by step (`Machine.run_filter_rel`): a silent call
leaves twins, and so does a call that both are given. -/
lemma Twins.trace_marked {t : ℤ} {calls : List (Call ℚ × Bool)} {gLedgers gLedgers' : Ledgers ℚ}
    (h : Twins (fun _ _ => True) t gLedgers gLedgers')
    (hadm : service.marked.Admissible (fun t c s => t ≤ c.1.now ∧ AllNonneg s ∧
      (c.2 = true → c.1.Silent s)) (fun _ c => c.1.now) t calls gLedgers) :
    List.Forall₂ (fun x y => x.1 = y.1 ∧ SameAnswer x.2 y.2)
      ((service.marked.trace calls gLedgers).filter fun x => !x.1.2)
      (service.marked.trace (calls.filter fun c => !c.2) gLedgers') := by
  refine Machine.run_filter_rel (fun c : Call ℚ × Bool => !c.2) ?_ ?_ t calls hadm h
  · rintro t ⟨call, mark⟩ s s' hv ⟨ht, hnonneg, hsilent⟩ htwins
    exact htwins.serve_silent ht hnonneg (hsilent (by simpa using hv))
  · rintro t ⟨call, mark⟩ s s' - ⟨ht, hnonneg, -⟩ htwins
    exact htwins.serve ht (fun _ _ => trivial) hnonneg

/-- There is a time before a clock that does not go back. -/
lemma exists_start {nows : List ℤ} (h : nows.Pairwise (· ≤ ·)) :
    ∃ t, (t :: nows).Pairwise (· ≤ ·) := by
  cases nows with
  | nil => exact ⟨0, List.pairwise_singleton _ _⟩
  | cons now nows =>
    refine ⟨now, List.pairwise_cons.mpr ⟨fun later hlater => ?_, h⟩⟩
    rcases List.mem_cons.mp hlater with rfl | hlater
    · exact le_rfl
    · exact (List.pairwise_cons.mp h).1 later hlater

/-- The last reading of a clock that does not go back is before the next one. -/
lemma foldl_now_le {τ : Type} {now : τ → ℤ} {pre post : List τ} {x : τ} {t : ℤ}
    (h : (t :: (pre ++ x :: post).map now).Pairwise (· ≤ ·)) :
    pre.foldl (fun _ y => now y) t ≤ now x := by
  induction pre generalizing t with
  | nil => exact (List.pairwise_cons.mp h).1 _ (List.mem_cons_self ..)
  | cons y pre ih => exact ih (List.pairwise_cons.mp h).2

/-- **Retries are unobservable.** Take a run whose clock readings do not decrease and whose
approved reservations carry no negative amounts, and mark some of its calls: queries, requests
that are refused, and above all retries, which repeat a `ReserveOrder` that was approved earlier
or a `ReleaseOrder` that found its order earlier, with any calls in between. Then all other
calls are answered as in the run without the marked ones, but for the terminal label of a
queried reservation and the order of a list: a request that is delivered again has no further
effect.

**Proof sketch.** A retry is silent (`Call.Retries.silent`), a silent call does not change the
reference (`eagerServe_of_silent`), and the answers are those of the reference
(`Twins.trace_marked`). -/
theorem retries_are_unobservable (calls : List (Call ℚ × Bool))
    (hclock : (calls.map fun c => c.1.now).Pairwise (· ≤ ·))
    (hnonneg : ∀ a l, (service.final (calls.map Prod.fst) ∅).lookup a = some l → l.Nonneg)
    (hmarked : ∀ pre call post, calls = pre ++ (call, true) :: post →
      call.Retries (pre.map Prod.fst) ∨ call.Silent (service.final (pre.map Prod.fst) ∅)) :
    List.Forall₂ (fun x y => x.1 = y.1 ∧ SameAnswer x.2 y.2)
      ((service.marked.trace calls ∅).filter fun x => !x.1.2)
      (service.marked.trace (calls.filter fun c => !c.2) ∅) := by
  obtain ⟨t, ht⟩ := exists_start hclock
  refine (Twins.refl (.refl _) t).trace_marked (Machine.Admissible.of_splits ?_)
  rintro pre ⟨call, mark⟩ post rfl
  rw [Machine.final_marked]
  refine ⟨foldl_now_le ht, ?_, ?_⟩
  · rw [List.map_append, Machine.final_append] at hnonneg
    exact AllNonneg.of_final hnonneg
  · rintro rfl
    rcases hmarked pre call post rfl with hretry | hsilent
    · exact hretry.silent
    · exact hsilent

/-- A retried reservation, a query and a retried release among the calls of a run. -/
theorem retries_are_unobservable_sample :
    let calls := [(Sample.upsert 1 true, false), (Sample.reserve "o1" 7 0, false),
      (Sample.get, true), (Sample.reserve "o1" 7 1, true), (Sample.reserve "o2" 4 1, false)]
    List.Forall₂ (fun x y => x.1 = y.1 ∧ SameAnswer x.2 y.2)
      ((service.marked.trace calls ∅).filter fun x => !x.1.2)
      (service.marked.trace (calls.filter fun c => !c.2) ∅) :=
  retries_are_unobservable _ (by decide)
    (UnorderedMap.forall_entries (p := fun _ l => LedgerState.Nonneg l) |>.mp (by decide +kernel))
    (by
      intro pre call post h
      have happroved : (serve (Sample.reserve "o1" 7 0)
        (service.final [Sample.upsert 1 true] ∅)).1.isApproved = true := by decide +kernel
      rcases pre with _ | ⟨c₀, _ | ⟨c₁, _ | ⟨c₂, _ | ⟨c₃, _ | ⟨c₄, pre⟩⟩⟩⟩⟩ <;>
        simp only [List.nil_append, List.cons_append, List.cons.injEq, Prod.mk.injEq,
          Bool.false_eq_true, and_false, false_and, List.nil_eq, List.append_eq_nil_iff,
          reduceCtorEq] at h
      · obtain ⟨-, -, ⟨rfl, -⟩, -⟩ := h
        exact .inr trivial
      · obtain ⟨rfl, rfl, rfl, ⟨rfl, -⟩, -⟩ := h
        exact .inl ⟨[Sample.upsert 1 true], Sample.reserve "o1" 7 0, [Sample.get], rfl, rfl,
          happroved⟩)

/-! ## Finished orders -/

/-- A reservation that is over in the ledger is settled in its reading. -/
lemma ReservationState.settled_eager {t : ℤ} {r : ReservationState ℚ} (hover : ¬r.activeAt t)
    (hnonneg : 0 ≤ r.notional ∧ 0 ≤ r.margin) : r.eager.Settled t where
  inactive := by
    rw [activeAt, not_and_or, not_lt] at hover
    rcases hover with hr | hle
    · simp [EagerReservation.activeAt, eager, hr]
    · simp [EagerReservation.activeAt, eager, hle]
  notional := hnonneg.1
  margin := hnonneg.2

/-- Reachable states with the same policies and the same visible reservations are twins if the
hidden reservations are over in both.

**Proof sketch.** Each state is mirrored by its own reading, and the two readings agree. -/
lemma Twins.of_reachable {visible : String → String → Prop} {t : ℤ} {gLedgers gLedgers' : Ledgers ℚ}
    (h : Reachable gLedgers) (h' : Reachable gLedgers') (hnonneg : AllNonneg gLedgers)
    (hnonneg' : AllNonneg gLedgers') (hpolicy : ∀ a, policyOf gLedgers a = policyOf gLedgers' a)
    (hvisible : ∀ a o, visible a o → reservationOf gLedgers a o = reservationOf gLedgers' a o)
    (hover : ∀ a o, ¬visible a o → ∀ r ∈ reservationOf gLedgers a o, ¬r.activeAt t)
    (hover' : ∀ a o, ¬visible a o → ∀ r ∈ reservationOf gLedgers' a o, ¬r.activeAt t) :
    Twins visible t gLedgers gLedgers' := by
  refine ⟨_, _, mirrors_eager h t, mirrors_eager h' t, fun a => ?_⟩
  have hpolicy := hpolicy a
  have hvisible := hvisible a
  have hover := hover a
  have hover' := hover' a
  simp only [policyOf, reservationOf] at hpolicy hvisible hover hover'
  cases hl : gLedgers.lookup a with
  | none =>
    cases hl' : gLedgers'.lookup a with
    | none => exact .none
    | some l' => simp [hl, hl'] at hpolicy
  | some l =>
    cases hl' : gLedgers'.lookup a with
    | none => simp [hl, hl'] at hpolicy
    | some l' =>
      rw [hl, hl', Option.map_some, Option.map_some, Option.some.injEq] at hpolicy
      rw [hl] at hover
      rw [hl'] at hover'
      simp only [hl, hl', Option.bind_some] at hvisible
      refine .some ⟨hpolicy, fun o ho => ?_, fun o q ho hq => ?_, fun o q ho hq => ?_⟩
      · simp only [LedgerState.eager, UnorderedMap.lookup_mapEntries, hvisible o ho]
      · rw [LedgerState.eager, UnorderedMap.lookup_mapEntries, Option.map_eq_some_iff] at hq
        obtain ⟨r, hr, rfl⟩ := hq
        exact r.settled_eager (hover o ho r hr) (hnonneg a l hl o r hr)
      · rw [LedgerState.eager, UnorderedMap.lookup_mapEntries, Option.map_eq_some_iff] at hq
        obtain ⟨r, hr, rfl⟩ := hq
        exact r.settled_eager (hover' o ho r hr) (hnonneg' a l' hl' o r hr)

/-- A run of calls that name no hidden order, with a clock that does not go back, is admissible
for twins. -/
lemma admissible_twinSimulation {visible : String → String → Prop} {calls : List (Call ℚ)} {t : ℤ}
    {gLedgers : Ledgers ℚ} (hallowed : ∀ call ∈ calls, call.Allowed visible)
    (hclock : (t :: calls.map fun call => call.now).Pairwise (· ≤ ·))
    (hnonneg : AllNonneg (service.final calls gLedgers)) :
    service.Admissible (twinSimulation visible).guard (twinSimulation visible).next t calls
      gLedgers := by
  refine Machine.Admissible.of_splits ?_
  rintro pre call post rfl
  rw [Machine.final_append] at hnonneg
  exact ⟨⟨foldl_now_le hclock, hallowed call (by simp)⟩, hnonneg.of_final⟩

/-- **Finished orders are unobservable.** Take two reachable states with the same policies, and
some orders of which each is over in both: it was never reserved, was released, or has passed its
deadline by the time `t`. Let all other orders have the same reservations, and let no reservation
carry a negative amount, neither in the two states nor in the run. Then every run of calls that do
not name those orders, with a clock that starts at `t` or later and does not go back, has the same
answers from both states, but for the terminal label of a queried reservation and the order of a
list. So what an account reserved and gave back has no effect on what it can reserve later, and old
entries of the map could be dropped unless their orders come up again.

**Proof sketch.** The two states are twins (`Twins.of_reachable`), and a call that names no
hidden order keeps them so (`Twins.serve`). -/
theorem finished_orders_are_unobservable {gLedgers gLedgers' : Ledgers ℚ}
    (hreach : Reachable gLedgers) (hreach' : Reachable gLedgers')
    (visible : String → String → Prop) (t : ℤ)
    (hpolicy : ∀ a, policyOf gLedgers a = policyOf gLedgers' a)
    (hvisible : ∀ a o, visible a o → reservationOf gLedgers a o = reservationOf gLedgers' a o)
    (hover : ∀ a o, ¬visible a o → ∀ r ∈ reservationOf gLedgers a o, ¬r.activeAt t)
    (hover' : ∀ a o, ¬visible a o → ∀ r ∈ reservationOf gLedgers' a o, ¬r.activeAt t)
    (calls : List (Call ℚ))
    (hallowed : ∀ call ∈ calls, ∀ o, call.request.orderId = some o → visible call.account o)
    (hclock : (t :: calls.map fun call => call.now).Pairwise (· ≤ ·))
    (hnonneg : ∀ a l, (service.final calls gLedgers).lookup a = some l → l.Nonneg)
    (hnonneg' : ∀ a l, gLedgers'.lookup a = some l → l.Nonneg) :
    List.Forall₂ (fun x y => x.1 = y.1 ∧ SameAnswer x.2 y.2) (service.trace calls gLedgers)
      (service.trace calls gLedgers') :=
  (twinSimulation visible).run t calls (admissible_twinSimulation hallowed hclock hnonneg)
    (Twins.of_reachable hreach hreach' (AllNonneg.of_final hnonneg) hnonneg' hpolicy hvisible
      hover hover')

/-- Calls for other accounts leave the ledger of an account alone. -/
lemma lookup_final_of_ne {a : String} {calls : List (Call ℚ)}
    (h : ∀ call ∈ calls, call.account ≠ a) (gLedgers : Ledgers ℚ) :
    (service.final calls gLedgers).lookup a = gLedgers.lookup a :=
  Machine.final_invariant_of_events (I := fun s : Ledgers ℚ => s.lookup a = gLedgers.lookup a)
    (fun _ call _ hcalls hs => (lookup_serve_of_ne (h call (by simp [hcalls])) _).trans hs) rfl

/-- An order that was reserved and canceled takes no room from the next one. -/
theorem finished_orders_are_unobservable_sample :
    List.Forall₂ (fun x y => x.1 = y.1 ∧ SameAnswer x.2 y.2)
      (service.trace [Sample.reserve "o2" 8 1] (service.final
        [Sample.upsert 1 true, Sample.reserve "o1" 7 0, Sample.release "o1"] ∅))
      (service.trace [Sample.reserve "o2" 8 1] (service.final [Sample.upsert 1 true] ∅)) := by
  have hother : ∀ a, a ≠ "acc" → ∀ calls : List (Call ℚ), (∀ call ∈ calls, call.account = "acc") →
      (service.final calls ∅).lookup a = none := fun a ha calls hcalls =>
    (lookup_final_of_ne (fun call hcall => by rw [hcalls call hcall]; exact ha.symm) ∅).trans
      (AList.lookup_empty a)
  set calls := [Sample.upsert 1 true, Sample.reserve "o1" 7 0, Sample.release "o1"]
  set calls' := [Sample.upsert 1 true]
  have hacc : ∀ call ∈ calls, call.account = "acc" := by decide
  have hacc' : ∀ call ∈ calls', call.account = "acc" := by decide
  obtain ⟨l, hl⟩ : ∃ l, (service.final calls ∅).lookup "acc" = some l := ⟨_, rfl⟩
  obtain ⟨l', hl'⟩ : ∃ l', (service.final calls' ∅).lookup "acc" = some l' := ⟨_, rfl⟩
  obtain ⟨hpolicy, hkeys, hover, hkeys'⟩ : l.policy = l'.policy ∧ l.reservations.keys = ["o1"] ∧
      (l.reservations.lookup "o1").any (fun r => r.status = "reserved") = false ∧
      l'.reservations.keys = [] := by
    have hrun := Option.some.inj hl
    have hrun' := Option.some.inj hl'
    subst hrun hrun'
    decide +kernel
  have hnone' : ∀ o, l'.reservations.lookup o = none := fun o =>
    AList.lookup_eq_none.mpr fun ho => by simp [AList.mem_keys, hkeys'] at ho
  refine finished_orders_are_unobservable (reachable_final _) (reachable_final _)
    (fun _ o => o ≠ "o1") 1 (fun a => ?_) (fun a o ho => ?_) (fun a o ho => ?_) (fun a o ho => ?_)
    _ ?_ (by decide) ?_ ?_
  · by_cases ha : a = "acc"
    · subst ha
      simp only [policyOf, hl, hl', Option.map_some, hpolicy]
    · simp only [policyOf, hother a ha calls hacc, hother a ha calls' hacc']
  · by_cases ha : a = "acc"
    · subst ha
      have hnone : l.reservations.lookup o = none :=
        AList.lookup_eq_none.mpr fun ho' => ho (by simpa [AList.mem_keys, hkeys] using ho')
      simp only [reservationOf, hl, hl', Option.bind_some, hnone, hnone']
    · simp only [reservationOf, hother a ha calls hacc, hother a ha calls' hacc']
  · obtain rfl : o = "o1" := not_not.mp ho
    by_cases ha : a = "acc"
    · subst ha
      rw [reservationOf, hl]
      intro r hr hactive
      rw [Option.bind_some, Option.mem_def] at hr
      simp [hr, hactive.1] at hover
    · simp [reservationOf, hother a ha calls hacc]
  · by_cases ha : a = "acc"
    · subst ha
      simp [reservationOf, hl', hnone']
    · simp [reservationOf, hother a ha calls' hacc']
  · simp [Sample.reserve, Sample.reservePinned, Request.orderId]
  · exact UnorderedMap.forall_entries (p := fun _ l => LedgerState.Nonneg l) |>.mp
      (by decide +kernel)
  · exact UnorderedMap.forall_entries (p := fun _ l => LedgerState.Nonneg l) |>.mp
      (by decide +kernel)

end AccountRisk
