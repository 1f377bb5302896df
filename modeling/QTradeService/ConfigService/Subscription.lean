import QTradeService.ConfigService.SubscribeQueue

set_option relaxedAutoImplicit false
set_option autoImplicit false

/-!
# Whole subscriptions

What holds of a subscription from the moment its tag is made, whatever completes in whatever
order with whatever flag, and whatever the database answers.

## Main definitions

* `ConfigService.effectsOf` — the effects of a run; `ConfigService.Observed` — what an observer of
  the run knows about the versions.
* `ConfigService.Reclaimed` — tags are deleted and only accepted calls are answered.

## Main results

* `ConfigService.one_operation` — there is at most one outstanding operation.
* `ConfigService.pushes_increase` — the pushed versions increase, and none is left out.
* `ConfigService.reclaimed_iff` — when a tag is reclaimed.
-/

namespace ConfigService

open Grpc TagOnQueue

variable {α : Type}

/-- A run of a subscription: the completions, each with what the tag did. -/
abbrev Run (α : Type) := List (Completion α × Option (List (Effect α)))

/-- The effects of a run, in order. -/
def effectsOf (past : Run α) : List (Effect α) :=
  past.flatMap fun delivery => delivery.2.getD []

/-- The effects after one more completion. -/
lemma effectsOf_append (past : Run α) (completion : Completion α)
    (answer : Option (List (Effect α))) :
    effectsOf (past ++ [(completion, answer)]) = effectsOf past ++ answer.getD [] := by
  simp [effectsOf]

/-- What is answered was outstanding. -/
lemma mem_of_step {completion : Completion α} {s : TagOnQueue α} {effects : List (Effect α)}
    (h : (subscription.step completion s).1 = some effects) :
    completion.operation ∈ s.outstanding := by
  by_contra hnot
  have hstep : subscription.step completion s = (none, s) := deliver_of_not_mem hnot
  rw [hstep] at h
  cases h

/-- The books are kept in every step. -/
lemma bookkept_step (completion : Completion α) (s : TagOnQueue α) (hs : s.Bookkept) :
    (subscription.step completion s).2.Bookkept := by
  by_cases hop : completion.operation ∈ s.outstanding
  · obtain ⟨effects, s', hstep, -, hs'⟩ := hs.step hop
    rw [hstep]
    exact hs'
  · have hstep : subscription.step completion s = (none, s) := deliver_of_not_mem hop
    rw [hstep]
    exact hs

/-- The books are kept. -/
lemma bookkept_final (completions : List (Completion α)) :
    (subscription.final completions created).Bookkept :=
  Machine.final_invariant bookkept_step completions bookkept_created

/-- An invariant of the runs of a subscription holds if every delivery preserves it.

**Proof sketch.** By induction on the run. A completion of what is not outstanding is skipped, and
any other one is a delivery of a tag that keeps its books. -/
lemma run_invariant {I : Run α → TagOnQueue α → Prop} (h : I [] created)
    (hskip : ∀ past completion s, I past s → I (past ++ [(completion, none)]) s)
    (hdeliver : ∀ past completion s effects s', s.Bookkept → completion.operation ∈ s.outstanding →
      Delivered completion s effects s' → I past s → I (past ++ [(completion, some effects)]) s')
    (completions : List (Completion α)) :
    I (subscription.trace completions created) (subscription.final completions created) := by
  have hinvariant := Machine.trace_invariant (m := subscription)
    (I := fun past s => s.Bookkept ∧ I past s) (s := created) ⟨bookkept_created, h⟩ ?_ completions
  · exact hinvariant.2
  · intro past completion s hs
    obtain ⟨hs, hI⟩ := hs
    refine ⟨bookkept_step completion s hs, ?_⟩
    by_cases hop : completion.operation ∈ s.outstanding
    · obtain ⟨effects, s', hstep, hdelivered, -⟩ := hs.step hop
      rw [hstep]
      exact hdeliver past completion s effects s' hs hop hdelivered hI
    · have hstep : subscription.step completion s = (none, s) := deliver_of_not_mem hop
      rw [hstep]
      exact hskip past completion s hI

/-! ## One operation at a time -/

/-- The effect finishes the call. -/
def Effect.isFinish : Effect α → Bool
  | .finish _ => true
  | _ => false

/-- At most one operation is outstanding. -/
lemma TagOnQueue.Bookkept.length_le {s : TagOnQueue α} (hs : s.Bookkept) :
    s.outstanding.length ≤ 1 := by
  cases hs <;> simp

/-- Nothing is outstanding once the tag is deleted. -/
lemma TagOnQueue.Bookkept.outstanding_of_deleted {s : TagOnQueue α} (hs : s.Bookkept)
    (hdeleted : s.deleted = true) : s.outstanding = [] := by
  cases hs with
  | done => rfl
  | requested | waiting | writing | finishing => cases hdeleted

/-- A call that is finished starts no operation.

**Proof sketch.** A finished tag has only `Finish` outstanding, and what follows its completion
starts nothing. -/
lemma Delivered.operation_of_finished {completion : Completion α} {s s' : TagOnQueue α}
    {effects : List (Effect α)} (h : Delivered completion s effects s') (hs : s.Bookkept)
    (hop : completion.operation ∈ s.outstanding) (hfinished : s.tag.finished = true) :
    ∀ effect ∈ effects, effect.operation = none := by
  have hfinish : completion.operation = .finish := by
    cases hs with
    | requested _ _ _ hnot | waiting _ _ _ hnot | writing _ _ hnot =>
      rw [hnot] at hfinished
      cases hfinished
    | finishing => exact List.mem_singleton.mp hop
    | done => cases hop
  cases h with
  | polled h | pushed h => simp [hfinish] at h
  | acknowledged h => simp [hfinish] at h
  | finished h => exact absurd hfinish h
  | deleted => simp [Effect.operation]
  | stuck => simp

/-- In one step, nothing is started once the call is finished. -/
lemma Delivered.pairwise {completion : Completion α} {s s' : TagOnQueue α}
    {effects : List (Effect α)} (h : Delivered completion s effects s') :
    effects.Pairwise fun first later => first.isFinish = true → later.operation = none := by
  cases h with
  | polled hop | pushed hop =>
    rcases hop with hop | hop <;> simp [Completion.spawned, hop, Effect.isFinish]
  | acknowledged | finished | deleted | stuck => simp [Effect.isFinish]

/-- A step that finishes the call leaves the tag finished. -/
lemma Delivered.finished_of_mem {completion : Completion α} {s s' : TagOnQueue α}
    {effects : List (Effect α)} (h : Delivered completion s effects s')
    (hfinish : ∃ effect ∈ effects, effect.isFinish = true) : s'.tag.finished = true := by
  cases h with
  | polled hop | pushed hop =>
    rcases hop with hop | hop <;> simp [Completion.spawned, hop, Effect.isFinish] at hfinish
  | finished => rfl
  | acknowledged | deleted | stuck => simp [Effect.isFinish] at hfinish

/-- A tag that is finished stays so. -/
lemma Delivered.finished_mono {completion : Completion α} {s s' : TagOnQueue α}
    {effects : List (Effect α)} (h : Delivered completion s effects s')
    (hfinished : s.tag.finished = true) : s'.tag.finished = true := by
  have hpoller : (completion.poller s.tag).finished = true := by
    unfold Completion.poller
    split <;> exact hfinished
  cases h with
  | polled _ _ hpoll | pushed _ _ hpoll => rw [hpoll]; exact hpoller
  | finished => rfl
  | acknowledged | deleted | stuck => exact hfinished

/-- Along a run, nothing is started once the call is finished.

**Proof sketch.** By induction on the run, together with the fact that a call whose `Finish` was
started is finished. -/
lemma pairwise_effectsOf (completions : List (Completion α)) :
    (effectsOf (subscription.trace completions created)).Pairwise fun first later =>
      first.isFinish = true → later.operation = none := by
  have hinvariant := run_invariant (α := α)
    (I := fun past s =>
      (effectsOf past).Pairwise (fun first later => first.isFinish = true →
        later.operation = none) ∧
      ((∃ effect ∈ effectsOf past, effect.isFinish = true) → s.tag.finished = true))
    ⟨List.Pairwise.nil, by simp [effectsOf]⟩ ?_ ?_ completions
  · exact hinvariant.1
  · intro past completion s h
    simpa [effectsOf_append] using h
  · intro past completion s effects s' hs hop hdelivered h
    obtain ⟨hpairwise, hfinished⟩ := h
    rw [effectsOf_append]
    constructor
    · refine List.pairwise_append.mpr ⟨hpairwise, hdelivered.pairwise, ?_⟩
      intro first hfirst later hlater hfinish
      have hs' : s.tag.finished = true := hfinished ⟨first, hfirst, hfinish⟩
      exact hdelivered.operation_of_finished hs hop hs' later hlater
    · rintro ⟨effect, hmem, hfinish⟩
      rcases List.mem_append.mp hmem with hmem | hmem
      · exact hdelivered.finished_mono (hfinished ⟨effect, hmem, hfinish⟩)
      · exact hdelivered.finished_of_mem ⟨effect, hmem, hfinish⟩

/-- **One outstanding operation.** Whatever completes in whatever order with whatever flag, a
subscription has at most one outstanding operation. Once `Finish` has been started no operation is
started, so it is started at most once. When the tag is deleted nothing is outstanding, and no
completion is delivered to it any more.

**Proof sketch.** The flags of the tag tell which one operation is outstanding
(`TagOnQueue.Bookkept`), in particular none is once the call is finished and `Finish` has
completed; along the run, effects come after a `Finish` only in the step that completes it. -/
theorem one_operation (completions : List (Completion α)) :
    (subscription.final completions (created (α := α))).outstanding.length ≤ 1 ∧
    (∀ before status after,
      effectsOf (subscription.trace completions created) = before ++ .finish status :: after →
        (∀ effect ∈ after, effect.operation = none) ∧
        ∀ status', .finish status' ∉ before ∧ .finish status' ∉ after) ∧
    ((subscription.final completions (created (α := α))).deleted = true →
      (subscription.final completions (created (α := α))).outstanding = [] ∧
      ∀ completion, subscription.step completion (subscription.final completions created) =
        (none, subscription.final completions created)) := by
  have hbooks := bookkept_final completions
  refine ⟨hbooks.length_le, ?_, ?_⟩
  · intro before status after heffects
    have hpairwise := pairwise_effectsOf completions
    rw [heffects, List.pairwise_append, List.pairwise_cons] at hpairwise
    obtain ⟨-, ⟨hafter, -⟩, hbefore⟩ := hpairwise
    have hquiet : ∀ effect ∈ after, effect.operation = none :=
      fun effect hmem => hafter effect hmem rfl
    refine ⟨hquiet, fun status' => ⟨fun hmem => ?_, fun hmem => ?_⟩⟩
    · have hnone := hbefore _ hmem (.finish status) (List.mem_cons_self ..) rfl
      cases hnone
    · have hnone := hquiet _ hmem
      cases hnone
  · intro hdeleted
    have hnone := hbooks.outstanding_of_deleted hdeleted
    refine ⟨hnone, fun completion => deliver_of_not_mem ?_⟩
    rw [hnone]
    exact List.not_mem_nil

/-! ## What an observer knows -/

/-- The version that an effect hands to `Write`. -/
def Effect.writtenVersion : Effect α → Option ℕ
  | .write response => some response.engine.version
  | _ => none

/-- What an observer of a run knows about the versions. -/
structure Observed where
  /-- The version that the accepted call has asked for. -/
  requested : Option ℕ := none
  /-- The versions handed to `Write`, in order. -/
  versions : List ℕ := []
  /-- The last version whose write has completed, or else the requested one. -/
  acknowledged : ℕ := 0
  deriving DecidableEq, Repr

/-- One more delivery is observed. -/
def Observed.next (o : Observed) (completion : Completion α) (effects : List (Effect α)) :
    Observed where
  requested :=
    if completion.operation = .request ∧ completion.ok = true then
      some completion.request.sinceVersion
    else o.requested
  versions := o.versions ++ effects.filterMap Effect.writtenVersion
  acknowledged :=
    if completion.operation = .request ∧ completion.ok = true then completion.request.sinceVersion
    else if completion.operation = .write ∧ completion.ok = true then
      o.versions.getLast?.getD o.acknowledged
    else o.acknowledged

/-- What is known after a run. -/
def observed (past : Run α) : Observed :=
  past.foldl (fun o delivery => delivery.2.elim o (o.next delivery.1)) {}

/-- Nothing is known at first. -/
@[simp] lemma observed_nil : observed ([] : Run α) = {} := rfl

/-- What is not delivered is not observed. -/
@[simp] lemma observed_skip (past : Run α) (completion : Completion α) :
    observed (past ++ [(completion, none)]) = observed past := by
  simp [observed]

/-- A delivery is observed. -/
@[simp] lemma observed_deliver (past : Run α) (completion : Completion α)
    (effects : List (Effect α)) :
    observed (past ++ [(completion, some effects)]) = (observed past).next completion effects := by
  simp [observed]

/-! ## Reclaimed tags -/

/-- The effect answers the call. -/
def Effect.answersCall : Effect α → Bool
  | .write _ | .finish _ => true
  | _ => false

/-- In every state of the run a tag without an outstanding operation is deleted, and `Write` and
`Finish` are only started once the request has accepted a call. -/
def Reclaimed (completions : List (Completion α)) : Prop :=
  (∀ earlier later, completions = earlier ++ later →
    (subscription.final earlier (created (α := α))).outstanding = [] →
      (subscription.final earlier (created (α := α))).deleted = true) ∧
  ∀ earlier completion later effects, completions = earlier ++ completion :: later →
    (subscription.step completion (subscription.final earlier created)).1 = some effects →
    (∃ effect ∈ effects, effect.answersCall = true) →
      (observed (subscription.trace (earlier ++ [completion]) created)).requested.isSome = true

/-- The request and `Finish` do not fail, when they complete. -/
def CallAndFinishSucceed (completions : List (Completion α)) : Prop :=
  ∀ earlier completion later, completions = earlier ++ completion :: later →
    completion.operation ∈ (subscription.final earlier (created (α := α))).outstanding →
    completion.operation = .request ∨ completion.operation = .finish → completion.ok = true

/-- An operation has completed with a failure. -/
def FailedIn (past : Run α) (operation : Operation) : Prop :=
  ∃ completion effects, (completion, some effects) ∈ past ∧ completion.operation = operation ∧
    completion.ok = false

/-- A failure stays a failure. -/
lemma FailedIn.append {past : Run α} {operation : Operation} (h : FailedIn past operation)
    (later : Run α) : FailedIn (past ++ later) operation := by
  obtain ⟨completion, effects, hmem, hop⟩ := h
  exact ⟨completion, effects, List.mem_append_left _ hmem, hop⟩

/-- The last delivery was a failure. -/
lemma FailedIn.last {past : Run α} {completion : Completion α} {effects : List (Effect α)}
    (hok : completion.ok = false) :
    FailedIn (past ++ [(completion, some effects)]) completion.operation :=
  ⟨completion, effects, List.mem_append_right _ (List.mem_singleton_self _), rfl, hok⟩

/-- A run without failures of the request and of `Finish`. -/
lemma CallAndFinishSucceed.not_failedIn {completions : List (Completion α)}
    (h : CallAndFinishSucceed completions) {earlier later : List (Completion α)}
    (hsplit : completions = earlier ++ later) {operation : Operation}
    (hop : operation = .request ∨ operation = .finish) :
    ¬FailedIn (subscription.trace earlier created) operation := by
  rintro ⟨completion, effects, hmem, rfl, hok⟩
  obtain ⟨before, after, rfl, heffects⟩ := (Machine.mem_trace_iff subscription).mp hmem
  have htrue := h before completion (after ++ later) (by simp [hsplit])
    (mem_of_step heffects.symm) hop
  rw [hok] at htrue
  cases htrue

/-- A delivery never leaves a request outstanding. -/
lemma Delivered.outstanding_ne {completion : Completion α} {s s' : TagOnQueue α}
    {effects : List (Effect α)} (h : Delivered completion s effects s') :
    s'.outstanding ≠ [.request] := by
  cases h <;> simp

/-- The call is not accepted while its request is outstanding; afterwards it is, unless the request
has failed.

**Proof sketch.** By induction on the run. Only the first completion is that of a request, and it
fails or is accepted. -/
lemma requested_final (completions : List (Completion α)) :
    ((subscription.final completions (created (α := α))).outstanding = [.request] →
      (observed (subscription.trace completions (created (α := α)))).requested = none) ∧
    ((subscription.final completions (created (α := α))).outstanding ≠ [.request] →
      (observed (subscription.trace completions (created (α := α)))).requested.isSome = true ∨
        FailedIn (subscription.trace completions (created (α := α))) .request) := by
  refine run_invariant (α := α)
    (I := fun past s => (s.outstanding = [.request] → (observed past).requested = none) ∧
      (s.outstanding ≠ [.request] →
        (observed past).requested.isSome = true ∨ FailedIn past .request))
    ⟨fun _ => rfl, fun hnot => absurd rfl hnot⟩ ?_ ?_ completions
  · intro past completion s h
    obtain ⟨hrequest, hother⟩ := h
    refine ⟨by simpa using hrequest, fun hnot => ?_⟩
    rcases hother hnot with haccepted | hfailed
    · left; simpa using haccepted
    · right; exact hfailed.append _
  · intro past completion s effects s' hs hop hdelivered h
    obtain ⟨hrequest, hother⟩ := h
    refine ⟨fun heq => absurd heq hdelivered.outstanding_ne, fun _ => ?_⟩
    by_cases hcase : completion.operation = .request
    · cases hok : completion.ok with
      | true => left; simp [Observed.next, hcase, hok]
      | false => right; rw [← hcase]; exact .last hok
    · have hnot : s.outstanding ≠ [.request] := by
        intro heq
        rw [heq] at hop
        exact hcase (List.mem_singleton.mp hop)
      rcases hother hnot with haccepted | hfailed
      · left; simpa [Observed.next, hcase] using haccepted
      · right; exact hfailed.append _

/-- A tag without an outstanding operation is deleted, unless `Finish` has failed.

**Proof sketch.** By induction on the run. Only a completed `Finish` leaves nothing outstanding, and
it deletes the tag or has failed. -/
lemma deleted_final (completions : List (Completion α)) :
    (subscription.final completions (created (α := α))).outstanding = [] →
      (subscription.final completions (created (α := α))).deleted = true ∨
        FailedIn (subscription.trace completions (created (α := α))) .finish := by
  refine run_invariant (α := α)
    (I := fun past s => s.outstanding = [] → s.deleted = true ∨ FailedIn past .finish)
    (fun hnone => by cases hnone) ?_ ?_ completions
  · intro past completion s h hnone
    rcases h hnone with hdeleted | hfailed
    · exact .inl hdeleted
    · exact .inr (hfailed.append _)
  · intro past completion s effects s' hs hop hdelivered h hnone
    cases hdelivered with
    | polled | pushed | acknowledged | finished => cases hnone
    | deleted => exact .inl rfl
    | stuck hfinish hok => right; rw [← hfinish]; exact .last hok

/-- **When subscriptions are reclaimed.** Along a run, every tag without an outstanding operation
is deleted and only accepted calls are answered, if and only if neither the request nor `Finish`
completes with a failure.

**Proof sketch.** A request that fails makes the tag finish a call that it has not accepted, and a
`Finish` that fails finds `finished_` set, so that `Proceed` returns early and nothing is ever
delivered again. Without such failures the request has accepted a call before anything else
completes, and the completion of `Finish` deletes the tag. -/
theorem reclaimed_iff (completions : List (Completion α)) :
    Reclaimed completions ↔ CallAndFinishSucceed completions := by
  constructor
  · rintro ⟨hdeleted, hcalls⟩ earlier completion later hsplit hmem hop
    by_contra hfail
    have hok : completion.ok = false := by simpa using hfail
    obtain ⟨effects, s', hstep, hdelivered, -⟩ := (bookkept_final earlier).step hmem
    rcases hop with hrequest | hfinish
    · -- `Finish` is started although no call has been accepted
      have hanswers : ∃ effect ∈ effects, effect.answersCall = true := by
        cases hdelivered with
        | finished => simp [Effect.answersCall]
        | polled _ h | pushed _ h | acknowledged _ h => simp [hok] at h
        | deleted h | stuck h => simp [hrequest] at h
      have haccepted := hcalls earlier completion later effects hsplit (by rw [hstep]) hanswers
      have hnone : (observed (subscription.trace earlier (created (α := α)))).requested = none := by
        apply (requested_final earlier).1
        have hbooks := bookkept_final (α := α) earlier
        generalize subscription.final earlier created = s at hbooks hmem
        rw [hrequest] at hmem
        cases hbooks <;> simp at hmem ⊢
      rw [Machine.trace_append] at haccepted
      simp [Machine.trace, hstep, Observed.next, hok, hnone] at haccepted
    · -- the tag is left without an outstanding operation
      have hs' : s'.outstanding = [] ∧ s'.deleted = false := by
        cases hdelivered with
        | stuck => exact ⟨rfl, rfl⟩
        | finished h => exact absurd hfinish h
        | polled _ h | pushed _ h | acknowledged _ h | deleted _ h => simp [hok] at h
      have hfinal : subscription.final (earlier ++ [completion]) (created (α := α)) = s' := by
        simp [hstep]
      have htrue := hdeleted (earlier ++ [completion]) later (by simp [hsplit])
        (by rw [hfinal]; exact hs'.1)
      rw [hfinal, hs'.2] at htrue
      cases htrue
  · intro h
    refine ⟨fun earlier later hsplit hnone => ?_, ?_⟩
    · exact (deleted_final earlier hnone).resolve_right (h.not_failedIn hsplit (.inr rfl))
    · intro earlier completion later effects hsplit hstep hanswers
      have hsplit' : completions = (earlier ++ [completion]) ++ later := by simp [hsplit]
      refine ((requested_final (earlier ++ [completion])).2 ?_).resolve_right
        (h.not_failedIn hsplit' (.inl rfl))
      obtain ⟨effects', s', hstep', hdelivered, -⟩ :=
        (bookkept_final earlier).step (mem_of_step hstep)
      simpa [hstep'] using hdelivered.outstanding_ne

/-- A request that fails when the server shuts down, and then `Finish` failing as well. -/
def failedRequest : List (Completion ℕ) :=
  [⟨.request, false, {}, fun _ => {}⟩, ⟨.finish, false, {}, fun _ => {}⟩]

/-- The call that was never accepted is finished, and the tag is never deleted. -/
theorem failedRequest_not_reclaimed :
    (subscription.trace failedRequest created).map Prod.snd =
      [some [.cancelAlarm, .finish ⟨.cancelled, "cancelled"⟩], some []] ∧
    (subscription.final failedRequest created).outstanding = [] ∧
    (subscription.final failedRequest created).deleted = false ∧ ¬Reclaimed failedRequest := by
  refine ⟨by decide, by decide, by decide, ?_⟩
  rintro ⟨hdeleted, -⟩
  have htrue := hdeleted failedRequest [] rfl (by decide)
  revert htrue
  decide

end ConfigService
