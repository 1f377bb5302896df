import QTradeService.AccountRisk.History
import QTradeService.Library.VersionedRegister

set_option relaxedAutoImplicit false
set_option autoImplicit false

/-!
# The stored policies and their versions

`UpsertAccountRiskPolicy` refuses a version smaller than the stored one, and nothing else
changes a policy. So upserts of distinct versions converge whatever the order in which they
arrive. The check lets an equal version through, so a version pins a policy only as long as
nobody stores another policy under the version that is stored.

## Main definitions

* `AccountRisk.policyOf` — the policy stored for an account.
* `AccountRisk.Call.upsertOf` — the policy that a call upserts for an account.
* `AccountRisk.Call.Resubmits` — a call that stores no other policy under the stored version.
* `AccountRisk.quotaOf` — everything in a ledger but the policy.

## Main results

* `AccountRisk.policyOf_final` — the stored policy is a register of versions.
* `AccountRisk.version_pins_policy` — when a version pins a policy.
* `AccountRisk.upserts_converge` — the order of upserts does not matter.
-/

namespace AccountRisk

variable {α : Type}

/-- The policy stored for the account `a`. -/
def policyOf (gLedgers : Ledgers α) (a : String) : Option (AccountRiskPolicy α) :=
  (gLedgers.lookup a).map fun l => l.policy

/-- The policy that a call upserts for the account `a`. -/
def Call.upsertOf (a : String) (call : Call α) : Option (AccountRiskPolicy α) :=
  match call.request with
  | .upsertAccountRiskPolicy request =>
    if request.policy.accountId = a then some request.policy else none
  | _ => none

/-- The calls that upsert a policy for the account `a`. -/
lemma Call.upsertOf_eq_some {a : String} {call : Call α} {policy : AccountRiskPolicy α} :
    call.upsertOf a = some policy ↔
      call.request = .upsertAccountRiskPolicy ⟨policy⟩ ∧ policy.accountId = a := by
  obtain ⟨request, now, order⟩ := call
  cases request with
  | upsertAccountRiskPolicy request =>
    obtain ⟨policy'⟩ := request
    simp only [upsertOf, Option.ite_none_right_eq_some, Option.some.injEq,
      Request.upsertAccountRiskPolicy.injEq, UpsertAccountRiskPolicyRequest.mk.injEq]
    constructor
    · rintro ⟨ha, rfl⟩
      exact ⟨rfl, ha⟩
    · rintro ⟨rfl, ha⟩
      exact ⟨ha, rfl⟩
  | _ => simp [upsertOf]

section Service

variable [Zero α] [Add α] [Sub α] [Mul α] [NatCast α] [LT α] [DecidableLT α]

/-! ## Steps -/

/-- A call leaves the policy of an account alone, or it upserts one whose version is no smaller
than the stored one.

**Proof sketch.** By cases on the step. Only the two steps of an upsert store a policy, and the
guard lets no smaller version through. -/
lemma LedgerStep.policy {a : String} {call : Call α} {reply : Reply α}
    {entry entry' : Option (LedgerState α)} (h : LedgerStep a call reply entry entry') :
    (entry'.map fun l => l.policy) = entry.map (fun l => l.policy) ∨
      ∃ policy, call.upsertOf a = some policy ∧ (entry'.map fun l => l.policy) = some policy ∧
        ∀ l, entry = some l → l.policy.version ≤ policy.version := by
  cases h with
  | idle => exact .inl rfl
  | sweep reply ledger => exact .inl (by simp)
  | book ledger request => exact .inl (by simp [LedgerState.book])
  | release ledger request => exact .inl rfl
  | create request isUpsert account =>
    exact .inr ⟨request.policy, Call.upsertOf_eq_some.mpr ⟨isUpsert, account⟩, rfl,
      fun l hl => by cases hl⟩
  | upsert ledger request isUpsert account version noDecrease =>
    exact .inr ⟨request.policy, Call.upsertOf_eq_some.mpr ⟨isUpsert, account⟩, rfl,
      fun l hl => by cases hl; exact noDecrease⟩

/-- A call that upserts no policy for the account `a` leaves its policy alone. -/
lemma policyOf_serve_of_none {a : String} {call : Call α} (h : call.upsertOf a = none)
    (gLedgers : Ledgers α) : policyOf (serve call gLedgers).2 a = policyOf gLedgers a := by
  rcases (ledgerStep_serve a call gLedgers).policy with hsame | ⟨policy, hupsert, -⟩
  · exact hsame
  · rw [h] at hupsert
    cases hupsert

omit [Add α] [Sub α] [Mul α] [NatCast α] [LT α] [DecidableLT α] in
/-- A valid upsert writes to the register of the account. -/
lemma policyOf_upsertAccountRiskPolicy {policy : AccountRiskPolicy α}
    (hvalid : ¬(policy.accountId = "" ∨ policy.version = 0)) (gLedgers : Ledgers α) :
    policyOf (upsertAccountRiskPolicy ⟨policy⟩ gLedgers).2 policy.accountId =
      VersionedRegister.write (fun p => p.version) (policyOf gLedgers policy.accountId)
        policy := by
  rw [upsertAccountRiskPolicy_valid _ _ hvalid]
  unfold policyOf VersionedRegister.write
  cases hl : gLedgers.lookup policy.accountId with
  | none => simp [UnorderedMap.lookup_emplace_self, hl]
  | some l =>
    simp only [Option.map_some]
    split_ifs <;> simp [hl]

/-- The policy stored for an account, after any calls whose upserts for the account carry an
account and a version: what the upserts write to its register.

**Proof sketch.** By induction on the calls. A call that is no upsert for the account leaves the
policy alone, and a valid upsert writes to the register. -/
lemma policyOf_final {a : String} (ha : a ≠ "") {calls : List (Call α)}
    (hversion : ∀ policy ∈ calls.filterMap (Call.upsertOf a), policy.version ≠ 0)
    (gLedgers : Ledgers α) :
    policyOf (service.final calls gLedgers) a =
      (calls.filterMap (Call.upsertOf a)).foldl (VersionedRegister.write fun p => p.version)
        (policyOf gLedgers a) := by
  induction calls generalizing gLedgers with
  | nil => rfl
  | cons call calls ih =>
    rw [Machine.final_cons]
    cases h : call.upsertOf a with
    | none =>
      rw [List.filterMap_cons_none h] at hversion ⊢
      rw [ih hversion, ← policyOf_serve_of_none h gLedgers]
      rfl
    | some policy =>
      rw [List.filterMap_cons_some h] at hversion ⊢
      obtain ⟨hreq, rfl⟩ := Call.upsertOf_eq_some.mp h
      have hvalid : ¬(policy.accountId = "" ∨ policy.version = 0) :=
        not_or.mpr ⟨ha, hversion policy (List.mem_cons_self ..)⟩
      rw [ih fun p hp => hversion p (List.mem_cons_of_mem _ hp), List.foldl_cons,
        ← policyOf_upsertAccountRiskPolicy hvalid]
      simp [service, serve, hreq]

/-- The version stored for an account is no smaller after a call. -/
lemma version_le_serve {a : String} (call : Call α) {gLedgers : Ledgers α}
    {p : AccountRiskPolicy α} (hp : policyOf gLedgers a = some p) :
    ∃ p', policyOf (serve call gLedgers).2 a = some p' ∧ p.version ≤ p'.version := by
  rcases (ledgerStep_serve a call gLedgers).policy with hsame | ⟨policy, -, hafter, hle⟩
  · exact ⟨p, hsame.trans hp, le_rfl⟩
  · obtain ⟨l, hl, rfl⟩ := Option.map_eq_some_iff.mp hp
    exact ⟨policy, hafter, hle l hl⟩

/-- The version stored for an account is no smaller after any calls. -/
lemma version_le_final {a : String} (calls : List (Call α)) {gLedgers : Ledgers α}
    {p : AccountRiskPolicy α} (hp : policyOf gLedgers a = some p) :
    ∃ p', policyOf (service.final calls gLedgers) a = some p' ∧ p.version ≤ p'.version := by
  refine Machine.final_invariant
    (I := fun s : Ledgers α => ∃ p', policyOf s a = some p' ∧ p.version ≤ p'.version)
    (fun call s hs => ?_) calls ⟨p, hp, le_rfl⟩
  obtain ⟨q, hq, hpq⟩ := hs
  obtain ⟨q', hq', hqq'⟩ := version_le_serve call hq
  exact ⟨q', hq', hpq.trans hqq'⟩

/-! ## When a version pins a policy -/

/-- The call stores no policy under the version that is stored, other than the stored one. -/
def Call.Resubmits (call : Call α) (gLedgers : Ledgers α) : Prop :=
  ∀ policy, call.request = .upsertAccountRiskPolicy ⟨policy⟩ →
    ∀ stored, policyOf gLedgers policy.accountId = some stored →
      stored.version = policy.version → policy = stored

/-- In a run whose calls store no other policy under the stored version, a policy stays until a
newer version replaces it.

**Proof sketch.** Along the run the stored policy is the old one or has a greater version: an upsert
with the stored version carries the stored policy again. -/
lemma policyOf_pinned {a : String} {calls : List (Call α)} {gLedgers : Ledgers α}
    (h : ∀ pre call post, calls = pre ++ call :: post →
      call.Resubmits (service.final pre gLedgers))
    {p p' : AccountRiskPolicy α} (hp : policyOf gLedgers a = some p)
    (hp' : policyOf (service.final calls gLedgers) a = some p') (hv : p.version = p'.version) :
    p = p' := by
  have hkept : ∃ q, policyOf (service.final calls gLedgers) a = some q ∧
      (q = p ∨ p.version < q.version) := by
    refine Machine.final_invariant_of_events
      (I := fun s : Ledgers α => ∃ q, policyOf s a = some q ∧ (q = p ∨ p.version < q.version))
      (fun pre call post hcalls hs => ?_) ⟨p, hp, .inl rfl⟩
    obtain ⟨q, hq, hpq⟩ := hs
    rcases (ledgerStep_serve a call (service.final pre gLedgers)).policy with
      hsame | ⟨policy, hupsert, hafter, hle⟩
    · exact ⟨q, hsame.trans hq, hpq⟩
    · refine ⟨policy, hafter, ?_⟩
      obtain ⟨l, hl, hlq⟩ := Option.map_eq_some_iff.mp hq
      have hnewer : q.version ≤ policy.version := hlq ▸ hle l hl
      obtain ⟨hreq, rfl⟩ := Call.upsertOf_eq_some.mp hupsert
      rcases hpq with rfl | hlt
      · rcases Nat.lt_or_eq_of_le hnewer with hlt | heq
        · exact .inr hlt
        · exact .inl (h pre call post hcalls policy hreq q hq heq)
      · exact .inr (lt_of_lt_of_le hlt hnewer)
  obtain ⟨q, hq, hpq⟩ := hkept
  obtain rfl : q = p' := Option.some.inj (hq.symm.trans hp')
  rcases hpq with rfl | hlt
  · rfl
  · omega

/-- A policy that `GetAccountRiskPolicy` returned is the one that was stored. -/
lemma policyOf_of_get {call : Call α} {a : String}
    (hreq : call.request = .getAccountRiskPolicy ⟨a⟩) {gLedgers : Ledgers α}
    {p : AccountRiskPolicy α}
    (hreply : (serve call gLedgers).1 = .getAccountRiskPolicy .OK { policy := some p }) :
    policyOf gLedgers a = some p := by
  simp only [serve, hreq, getAccountRiskPolicy, accountKey] at hreply
  unfold policyOf
  cases hl : gLedgers.lookup a with
  | none => simp [hl] at hreply
  | some l => simpa [hl] using hreply

/-- **Versions and policies.** Take a run in which no call stores another policy under the
version that is stored. Any two policies that are ever stored for one account under one version
are the same. And if `GetAccountRiskPolicy` returned a policy with version `v ≠ 0`, any later
`ReserveOrder` with that version that newly approves an order passed the gates and the limits of
exactly that policy.

**Proof sketch.** Versions never decrease, and a step that keeps the version keeps the policy
(`policyOf_pinned`). The version gate makes the policy at the approval one of version `v`. -/
theorem version_pins_policy (calls : List (Call α))
    (h : ∀ pre call post, calls = pre ++ call :: post →
      call.Resubmits (service.final pre ∅)) :
    (∀ pre pre', pre <+: calls → pre' <+: calls → ∀ a p p',
      policyOf (service.final pre ∅) a = some p → policyOf (service.final pre' ∅) a = some p' →
      p.version = p'.version → p = p') ∧
    (∀ earlier read between call, earlier ++ read :: (between ++ [call]) <+: calls →
      ∀ request p, call.request = .reserveOrder request →
      read.request = .getAccountRiskPolicy ⟨request.accountId⟩ →
      (serve read (service.final earlier ∅)).1 = .getAccountRiskPolicy .OK { policy := some p } →
      request.riskConfigVersion = p.version → p.version ≠ 0 →
      reservationOf (service.final (earlier ++ read :: between) ∅) request.accountId
        request.intent.orderId = none →
      (serve call (service.final (earlier ++ read :: between) ∅)).1.isApproved = true →
      ∃ l, (service.final (earlier ++ read :: between) ∅).lookup request.accountId = some l ∧
        l.policy = p ∧ p.gate call.now p.version = none ∧
        (expireReservations call.order l call.now).policy = p ∧
        (expireReservations call.order l call.now).exceeded (request.reservation call.now).notional
          (request.reservation call.now).margin = none) := by
  have hpinned : ∀ pre mid, pre ++ mid <+: calls → ∀ a p p',
      policyOf (service.final pre ∅) a = some p →
      policyOf (service.final (pre ++ mid) ∅) a = some p' → p.version = p'.version → p = p' := by
    rintro pre mid ⟨post, rfl⟩ a p p' hp hp' hv
    rw [Machine.final_append] at hp'
    refine policyOf_pinned (fun pre' call post' hmid => ?_) hp hp' hv
    rw [← Machine.final_append]
    exact h (pre ++ pre') call (post' ++ post) (by simp [hmid])
  refine ⟨fun pre pre' hpre hpre' a p p' hp hp' hv => ?_, ?_⟩
  · rcases List.prefix_or_prefix_of_prefix hpre hpre' with ⟨mid, rfl⟩ | ⟨mid, rfl⟩
    · exact hpinned pre mid hpre' a p p' hp hp' hv
    · exact (hpinned pre' mid hpre a p' p hp' hp hv.symm).symm
  · intro earlier read between call hprefix request p hreq hread hreply hv hv0 hnew happroved
    have hp := policyOf_of_get hread hreply
    obtain ⟨l, hl, -⟩ := reserveOrder_approved hreq happroved
    obtain ⟨hgate, hfits, -⟩ :=
      booked_of_approved hreq happroved hl (reservationOf_eq_none.mp hnew l hl)
    have hversion : l.policy.version = p.version := by
      have hpinned := hgate
      unfold AccountRiskPolicy.gate at hpinned
      split_ifs at hpinned with hgates hmismatch
      rw [hv] at hmismatch
      by_contra hne
      exact hmismatch ⟨hv0, Ne.symm hne⟩
    have hprefix' : earlier ++ read :: between <+: calls := by
      refine List.IsPrefix.trans ⟨[call], ?_⟩ hprefix
      simp
    have hpolicy : p = l.policy := hpinned earlier (read :: between) hprefix' request.accountId
      p l.policy hp (by rw [policyOf, hl, Option.map_some]) hversion.symm
    refine ⟨l, hl, hpolicy.symm, ?_, ?_, hfits⟩
    · rw [hpolicy] at hv ⊢
      rw [← hv]
      exact hgate
    · rw [policy_expireReservations, hpolicy]

/-- The policy was read, stored a second time, and the version pinned by a reservation. -/
theorem version_pins_policy_sample :
    ∃ l : LedgerState ℚ, (service.final ([Sample.upsert 1 true] ++ Sample.get ::
        [Sample.upsert 1 true]) ∅).lookup "acc" = some l ∧
      l.policy = Sample.policy 1 true := by
  have hget : (serve Sample.get (service.final [Sample.upsert 1 true] ∅)).1 =
      .getAccountRiskPolicy .OK { policy := some (Sample.policy 1 true) } := by decide +kernel
  obtain ⟨-, hpinned⟩ := version_pins_policy [Sample.upsert 1 true, Sample.get,
    Sample.upsert 1 true, Sample.reservePinned 1 "o1" 2 0] (by
      intro pre call post hcalls policy hreq stored hstored hv
      obtain _ | ⟨_, _ | ⟨_, _ | ⟨_, _ | ⟨_, pre⟩⟩⟩⟩ := pre <;>
        simp only [List.nil_append, List.cons_append, List.cons.injEq] at hcalls
      · obtain ⟨rfl, -⟩ := hcalls
        simp [policyOf] at hstored
      · obtain ⟨-, rfl, -⟩ := hcalls
        cases hreq
      · obtain ⟨rfl, rfl, rfl, -⟩ := hcalls
        cases hreq
        have hstored' : policyOf (service.final [Sample.upsert 1 true, Sample.get] ∅) "acc" =
            some (Sample.policy 1 true) := by decide +kernel
        exact Option.some.inj (hstored'.symm.trans hstored)
      · obtain ⟨-, -, -, rfl, -⟩ := hcalls
        cases hreq
      · simp at hcalls)
  obtain ⟨l, hl, hpolicy, -⟩ := hpinned [Sample.upsert 1 true] Sample.get
    [Sample.upsert 1 true] (Sample.reservePinned 1 "o1" 2 0) ⟨[], rfl⟩ _ _ rfl rfl hget rfl
    (by decide) (by decide +kernel) (by decide +kernel)
  exact ⟨l, hl, hpolicy⟩

/-- Another policy may be stored under the stored version: an order far above the limit of the
policy that was read is approved under its version. -/
theorem version_not_pinned :
    let other : AccountRiskPolicy ℚ := { Sample.policy 1 true with maxNotional := 1000 }
    let calls := [Sample.upsert 1 true, Sample.get,
      ⟨.upsertAccountRiskPolicy ⟨other⟩, 0, .stored⟩]
    (serve Sample.get (service.final [Sample.upsert 1 true] ∅)).1 =
      .getAccountRiskPolicy .OK { policy := some (Sample.policy 1 true) } ∧
    policyOf (service.final calls ∅) "acc" = some other ∧ other ≠ Sample.policy 1 true ∧
    (serve (Sample.reservePinned 1 "o1" 50 0) (service.final calls ∅)).1 =
      .reserveOrder .OK ⟨.approved, "", 1, "RSV-o1", 300000⟩ := by
  decide +kernel

/-! ## Convergence -/

/-- Everything that a ledger holds but the policy; no ledger holds nothing. -/
def quotaOf (gLedgers : Ledgers α) (a : String) :
    UnorderedMap String (ReservationState α) × α × α × ℕ :=
  match gLedgers.lookup a with
  | none => (∅, 0, 0, 0)
  | some l => (l.reservations, l.reservedNotional, l.reservedMargin, l.reservedOpenOrders)

/-- An upsert that is answered with an error leaves the map of ledgers exactly as it was.

**Proof sketch.** The version check can fail only on a ledger that was there before, so the
ledger that `operator[]` may create is never left behind (`upsertAccountRiskPolicy_valid`). -/
lemma serve_upsert_error {call : Call α} {policy : AccountRiskPolicy α}
    (hreq : call.request = .upsertAccountRiskPolicy ⟨policy⟩) {gLedgers : Ledgers α}
    (herror : (serve call gLedgers).1 ≠ .upsertAccountRiskPolicy .OK) :
    (serve call gLedgers).2 = gLedgers := by
  simp only [serve, hreq, ne_eq, Reply.upsertAccountRiskPolicy.injEq] at herror ⊢
  by_cases hvalid : policy.accountId = "" ∨ policy.version = 0
  · rw [upsertAccountRiskPolicy, if_pos hvalid]
  · rw [upsertAccountRiskPolicy_valid _ _ hvalid] at herror ⊢
    cases hl : gLedgers.lookup policy.accountId with
    | none => simp [hl] at herror
    | some l =>
      simp only [hl] at herror ⊢
      split_ifs at herror ⊢ with hdecrease
      · rfl
      · simp at herror

/-- An upsert changes no reservation and no reserved total, of any account.

**Proof sketch.** Another account is not touched. The own ledger is left alone, created without
reservations, or has its policy replaced. -/
lemma quotaOf_serve_upsert {call : Call α} {policy : AccountRiskPolicy α}
    (hreq : call.request = .upsertAccountRiskPolicy ⟨policy⟩) (gLedgers : Ledgers α)
    (b : String) : quotaOf (serve call gLedgers).2 b = quotaOf gLedgers b := by
  have haccount : call.account = policy.accountId := by
    simp only [Call.account, hreq, Request.account]
  unfold quotaOf
  by_cases hb : call.account = b
  · rw [← hb, haccount]
    simp only [serve, hreq]
    by_cases hvalid : policy.accountId = "" ∨ policy.version = 0
    · rw [upsertAccountRiskPolicy, if_pos hvalid]
    · rw [upsertAccountRiskPolicy_valid _ _ hvalid]
      cases hl : gLedgers.lookup policy.accountId with
      | none => simp [UnorderedMap.lookup_emplace_self, hl, LedgerState.fresh]
      | some l =>
        simp only
        split_ifs <;> simp [hl]
  · rw [lookup_serve_of_ne hb]

/-- **Upserts converge.** From any reachable state, let the upserts for the account `a`, in
whatever order they arrive and whatever calls arrive in between, carry versions that are not
zero, distinct, and different from the stored one. Then the policy stored in the end is the one
with the greatest version among the upserts and the one stored before. The stored version never
decreases on the way, an upsert that is answered with an error leaves the map of ledgers as it
was, and no upsert changes a reservation or a reserved total.

**Proof sketch.** The policy is a register to which the upserts write, and the greatest version
is left whatever the order of the writes. The versions grow since one step never stores a
smaller one. -/
theorem upserts_converge (calls : List (Call α)) (a : String) (ha : a ≠ "")
    (later : List (Call α)) (policies : List (AccountRiskPolicy α))
    (hupserts : (later.filterMap (Call.upsertOf a)).Perm policies)
    (hversion : ∀ p ∈ policies, p.version ≠ 0)
    (hdistinct : (((policyOf (service.final calls ∅) a).toList ++ policies).map
      fun p => p.version).Nodup) :
    (∀ p, policyOf (service.final (calls ++ later) ∅) a = some p ↔
      p ∈ (policyOf (service.final calls ∅) a).toList ++ policies ∧
      ∀ q ∈ (policyOf (service.final calls ∅) a).toList ++ policies, q.version ≤ p.version) ∧
    (∀ pre mid, pre ++ mid <+: later → ∀ p, policyOf (service.final (calls ++ pre) ∅) a = some p →
      ∃ p', policyOf (service.final (calls ++ pre ++ mid) ∅) a = some p' ∧
        p.version ≤ p'.version) ∧
    (∀ call policy gLedgers, call.request = .upsertAccountRiskPolicy ⟨policy⟩ →
      (serve call gLedgers).1 ≠ (.upsertAccountRiskPolicy .OK : Reply α) →
      (serve call gLedgers).2 = gLedgers) ∧
    (∀ (call : Call α) policy gLedgers, call.request = .upsertAccountRiskPolicy ⟨policy⟩ →
      ∀ b, quotaOf (serve call gLedgers).2 b = quotaOf gLedgers b) := by
  refine ⟨fun p => ?_, fun pre mid _ p hp => ?_, fun call policy gLedgers hreq herror => ?_,
    fun call policy gLedgers hreq b => quotaOf_serve_upsert hreq gLedgers b⟩
  · have hperm := hupserts.append_left (policyOf (service.final calls ∅) a).toList
    have hversion' : ∀ q ∈ later.filterMap (Call.upsertOf a), q.version ≠ 0 :=
      fun q hq => hversion q (hupserts.mem_iff.mp hq)
    rw [Machine.final_append, policyOf_final ha hversion',
      VersionedRegister.foldl_write_eq_some ((hperm.map _).nodup_iff.mpr hdistinct)]
    simp only [hperm.mem_iff]
  · rw [Machine.final_append]
    exact version_le_final mid hp
  · exact serve_upsert_error hreq herror

/-- Two upserts that arrive in the wrong order, with a reservation in between. -/
theorem upserts_converge_sample :
    policyOf (service.final ([Sample.upsert 1 true] ++ [Sample.upsert 3 true,
      Sample.reserve "o1" 2 0, Sample.upsert 2 false]) ∅) "acc" = some (Sample.policy 3 true) := by
  have hpolicy : policyOf (service.final [Sample.upsert 1 true] ∅) "acc" =
      some (Sample.policy 1 true) := by decide +kernel
  obtain ⟨hfinal, -⟩ := upserts_converge [Sample.upsert 1 true] "acc" (by decide)
    [Sample.upsert 3 true, Sample.reserve "o1" 2 0, Sample.upsert 2 false]
    [Sample.policy 2 false, Sample.policy 3 true] (List.Perm.swap _ _ _) (by decide +kernel)
    (by rw [hpolicy]; decide +kernel)
  refine (hfinal (Sample.policy 3 true)).mpr ?_
  rw [hpolicy]
  decide +kernel

end Service

end AccountRisk
