import QTradeService.ConfigService.Subscription

set_option relaxedAutoImplicit false
set_option autoImplicit false

/-!
# The versions that a subscription pushes

A subscription compares every configuration that it reads with `since_version_`. The field starts
as the requested version and becomes the version of a write when the write has completed, so it is
what an observer knows to have been acknowledged.

## Main definitions

* `ConfigService.Tracks` — the fields of the tag agree with what was observed.

## Main results

* `ConfigService.pushes_increase` — the pushed versions increase, and no later version that is read
  is left out.
-/

namespace ConfigService

open Grpc TagOnQueue

variable {α : Type}

/-- The fields of the tag agree with what an observer knows. -/
structure Tracks (o : Observed) (s : TagOnQueue α) : Prop where
  increasing : o.versions.Pairwise (· < ·)
  /-- Before the call is accepted nothing is known. -/
  unaccepted : s.tag.accepted = false → o.requested = none ∧ o.versions = []
  acknowledged : s.tag.accepted = true → o.acknowledged = s.tag.sinceVersion
  /-- The pushed versions are above the requested one. -/
  requested : s.tag.accepted = true → ∃ since ∈ o.requested, since ≤ s.tag.sinceVersion ∧
    ∀ version ∈ o.versions, since < version
  /-- The last version is being written. -/
  writing : Operation.write ∈ s.outstanding →
    o.versions.getLast? = some s.tag.outgoing.engine.version ∧
      s.tag.sinceVersion < s.tag.outgoing.engine.version
  /-- No version is being written, and all are known to have arrived. -/
  arrived : Operation.write ∉ s.outstanding → s.tag.finished = false →
    ∀ version ∈ o.versions, version ≤ s.tag.sinceVersion

/-- The last element of a list that increases is the greatest. -/
lemma le_of_getLast?_of_pairwise {versions : List ℕ} (h : versions.Pairwise (· < ·)) {last : ℕ}
    (hlast : versions.getLast? = some last) : ∀ version ∈ versions, version ≤ last := by
  obtain ⟨earlier, rfl⟩ := List.getLast?_eq_some_iff.mp hlast
  intro version hmem
  rcases List.mem_append.mp hmem with hmem | hmem
  · have hlt := (List.pairwise_append.mp h).2.2 version hmem last (List.mem_singleton_self _)
    omega
  · have heq := List.mem_singleton.mp hmem
    omega

variable {completion : Completion α} {s : TagOnQueue α} {o : Observed}

/-- The tag that polls has the acknowledged version, and nothing is being written.

**Proof sketch.** By what the tag waits for. A request sets the version that the client has, before
anything was written; an alarm changes nothing. -/
lemma Tracks.poller (h : Tracks o s) (hs : s.Bookkept)
    (hmem : completion.operation ∈ s.outstanding)
    (hop : completion.operation = .request ∨ completion.operation = .alarm)
    (hok : completion.ok = true) :
    Tracks (o.next completion []) ⟨completion.poller s.tag, [.alarm], false⟩ ∧
      (completion.poller s.tag).accepted = true ∧ (completion.poller s.tag).finished = false := by
  cases hs with
  | @requested tag hstatus haccepted hwriting hfinished =>
    have hrequest := List.mem_singleton.mp hmem
    have hnone : o.versions = [] := (h.unaccepted haccepted).2
    have hpoller : (completion.poller tag).sinceVersion = completion.request.sinceVersion ∧
        (completion.poller tag).accepted = true ∧ (completion.poller tag).finished = false := by
      simp [Completion.poller, hrequest, hfinished]
    obtain ⟨hsince, haccepted', hfinished'⟩ := hpoller
    refine ⟨?_, haccepted', hfinished'⟩
    constructor
    · simp [Observed.next, hnone]
    · intro hnot
      simp [haccepted'] at hnot
    · intro _
      simp [Observed.next, hrequest, hok, hsince]
    · intro _
      exact ⟨completion.request.sinceVersion, by simp [Observed.next, hrequest, hok],
        by simp [hsince], by simp [Observed.next, hnone]⟩
    · simp
    · simp [Observed.next, hnone]
  | @waiting tag hstatus haccepted hwriting hfinished =>
    have halarm := List.mem_singleton.mp hmem
    have hpoller : completion.poller tag = tag := by simp [Completion.poller, halarm]
    have hnext : o.next completion [] = o := by simp [Observed.next, halarm]
    rw [hpoller, hnext]
    exact ⟨⟨h.increasing, h.unaccepted, h.acknowledged, h.requested, h.writing, h.arrived⟩,
      haccepted, hfinished⟩
  | writing | finishing => rcases hop with hop | hop <;> simp [hop] at hmem
  | done => cases hmem

/-- What is observed when the tag polls and does not write. -/
lemma next_polled (o : Observed) {scope : ConfigScope} {config : EngineConfig α} :
    o.next completion (completion.spawned ++ [.queryConfig scope config, .setAlarm]) =
      o.next completion [] := by
  unfold Completion.spawned
  split <;> simp [Observed.next, List.filterMap_cons, Effect.writtenVersion]

/-- What is observed when the tag polls and writes. -/
lemma next_pushed (o : Observed) {scope : ConfigScope} {config : EngineConfig α} :
    o.next completion (completion.spawned ++ [.queryConfig scope config, .write ⟨config⟩]) =
      { o.next completion [] with versions := o.versions ++ [config.version] } := by
  unfold Completion.spawned
  split <;> simp [Observed.next, List.filterMap_cons, Effect.writtenVersion]

/-- What is observed of the other deliveries. -/
lemma next_of_operation (o : Observed) {effects : List (Effect α)}
    (hop : completion.operation ≠ .request ∧ completion.operation ≠ .write ∨ completion.ok = false)
    (heffects : effects.filterMap Effect.writtenVersion = []) : o.next completion effects = o := by
  rcases hop with ⟨hrequest, hwrite⟩ | hok
  · simp [Observed.next, hrequest, hwrite, heffects]
  · simp [Observed.next, hok, heffects]

/-- A poll that writes keeps the fields of the tag in agreement with what is observed.

**Proof sketch.** The tag that polls has a version which is at least every pushed one, and what it
writes is above that. -/
lemma Tracks.push (h : Tracks o s) (hs : s.Bookkept) (hmem : completion.operation ∈ s.outstanding)
    (hop : completion.operation = .request ∨ completion.operation = .alarm)
    (hok : completion.ok = true) {config : EngineConfig α}
    (hversion : (completion.poller s.tag).sinceVersion < config.version) :
    Tracks { o.next completion [] with versions := o.versions ++ [config.version] }
      ⟨{ completion.poller s.tag with
          outgoing := ⟨config⟩
          writeInFlight := true
          status := .kWrite }, [.write], false⟩ := by
  obtain ⟨hpolled, haccepted, hfinished⟩ := h.poller hs hmem hop hok
  have harrived : ∀ version ∈ o.versions, version ≤ (completion.poller s.tag).sinceVersion := by
    have harrived := hpolled.arrived (by simp) hfinished
    simpa [Observed.next] using harrived
  constructor
  · refine List.pairwise_append.mpr ⟨h.increasing, List.pairwise_singleton .., ?_⟩
    intro version hversion' last hlast
    have hle := harrived version hversion'
    have heq := List.mem_singleton.mp hlast
    omega
  · intro hnot
    exact absurd haccepted (by simpa using hnot)
  · exact fun _ => hpolled.acknowledged haccepted
  · intro _
    obtain ⟨since, hsince, hle, habove⟩ := hpolled.requested haccepted
    have hle : since ≤ (completion.poller s.tag).sinceVersion := hle
    refine ⟨since, hsince, hle, fun version hversion' => ?_⟩
    rcases List.mem_append.mp hversion' with hversion' | hversion'
    · exact habove version (by simpa [Observed.next] using hversion')
    · have heq := List.mem_singleton.mp hversion'
      omega
  · exact fun _ => ⟨by simp, hversion⟩
  · intro hnot
    simp at hnot

/-- A write that is done keeps the fields of the tag in agreement with what is observed.

**Proof sketch.** The last version was being written, and it is the greatest. Now it is the one that
the tag remembers. -/
lemma Tracks.acknowledge (h : Tracks o s) (hs : s.Bookkept)
    (hwrite : Operation.write ∈ s.outstanding) :
    Tracks { o with acknowledged := s.tag.outgoing.engine.version }
      ⟨{ s.tag with
          writeInFlight := false
          sinceVersion := s.tag.outgoing.engine.version
          status := .kAccept }, [.alarm], false⟩ := by
  obtain ⟨hlast, hlt⟩ := h.writing hwrite
  obtain ⟨since, hsince, hle, habove⟩ := h.requested (hs.accepted_of_write hwrite)
  constructor
  · exact h.increasing
  · exact h.unaccepted
  · exact fun _ => rfl
  · exact fun _ => ⟨since, hsince, by show since ≤ s.tag.outgoing.engine.version; omega, habove⟩
  · intro hnot
    simp at hnot
  · intro _ _
    exact le_of_getLast?_of_pairwise h.increasing hlast

/-- A delivery keeps the fields of the tag in agreement with what is observed.

**Proof sketch.** By what the completion does. A poll leaves out only versions that are not above
`since_version_`, and the write of the last version is the only thing that can complete until it
has; what is not a poll or a write is not observed. -/
lemma Tracks.delivered {effects : List (Effect α)} {s' : TagOnQueue α} (h : Tracks o s)
    (hs : s.Bookkept) (hmem : completion.operation ∈ s.outstanding)
    (hdelivered : Delivered completion s effects s') : Tracks (o.next completion effects) s' := by
  cases hdelivered with
  | polled hop hok hpoller hconfig hversion =>
    subst hpoller
    rw [next_polled]
    exact (h.poller hs hmem hop hok).1
  | pushed hop hok hpoller hconfig hversion =>
    subst hpoller
    rw [next_pushed]
    exact h.push hs hmem hop hok hversion
  | acknowledged hop hok =>
    have hwrite : Operation.write ∈ s.outstanding := hop ▸ hmem
    have hnext : o.next completion [Effect.setAlarm (α := α)] =
        { o with acknowledged := s.tag.outgoing.engine.version } := by
      simp [Observed.next, hop, hok, (h.writing hwrite).1, Effect.writtenVersion]
    rw [hnext]
    exact h.acknowledge hs hwrite
  | finished hop hok =>
    rw [next_of_operation o (.inr hok) (by simp [List.filterMap_cons, Effect.writtenVersion])]
    refine ⟨h.increasing, h.unaccepted, h.acknowledged, h.requested, ?_, ?_⟩
    · intro hnot
      simp at hnot
    · intro _ hnot
      cases hnot
  | deleted hop hok | stuck hop hok =>
    rw [next_of_operation o (.inl (by simp [hop])) (by simp [Effect.writtenVersion])]
    refine ⟨h.increasing, h.unaccepted, h.acknowledged, h.requested, ?_, fun _ => ?_⟩
    · intro hnot
      simp at hnot
    · refine h.arrived ?_
      intro hwrite
      cases hs with
      | writing => simp [hop] at hmem
      | requested | waiting | finishing | done => simp at hwrite

/-- Along a run, the fields of the tag agree with what is observed.

**Proof sketch.** By induction on the run: every completion that is delivered keeps the fields in
agreement, and the others change neither side. -/
lemma tracks_final (completions : List (Completion α)) :
    Tracks (observed (subscription.trace completions created))
      (subscription.final completions (created (α := α))) := by
  refine run_invariant (α := α) (I := fun past s => Tracks (observed past) s) ?_ ?_ ?_ completions
  · constructor
    · exact List.Pairwise.nil
    · exact fun _ => ⟨rfl, rfl⟩
    · intro haccepted
      cases haccepted
    · intro haccepted
      cases haccepted
    · intro hwrite
      have houtstanding : (created (α := α)).outstanding = [.request] := rfl
      simp [houtstanding] at hwrite
    · intro _ _ version hversion
      cases hversion
  · intro past completion s h
    rw [observed_skip]
    exact h
  · intro past completion s effects s' hs hmem hdelivered h
    rw [observed_deliver]
    exact h.delivered hs hmem hdelivered

/-- Completions of other operations change nothing. -/
lemma final_of_not_outstanding {completions : List (Completion α)} {s : TagOnQueue α}
    (h : ∀ completion ∈ completions, completion.operation ∉ s.outstanding) :
    subscription.final completions s = s := by
  induction completions with
  | nil => rfl
  | cons completion completions ih =>
    have hskip : subscription.step completion s = (none, s) :=
      deliver_of_not_mem (h completion (List.mem_cons_self ..))
    rw [Machine.final_cons, hskip]
    exact ih fun c hc => h c (List.mem_cons_of_mem _ hc)

/-- A request or an alarm that completes with success makes the tag ask for its scope, which is
the one of the request. -/
lemma Delivered.polls {effects : List (Effect α)} {s' : TagOnQueue α}
    (h : Delivered completion s effects s')
    (hop : completion.operation = .request ∨ completion.operation = .alarm)
    (hok : completion.ok = true) :
    .queryConfig s'.tag.scope (completion.config s'.tag.scope) ∈ effects ∧
      (completion.operation = .request → s'.tag.scope = completion.request.makeConfigScope) := by
  have hscope (hrequest : completion.operation = .request) :
      (completion.poller s.tag).scope = completion.request.makeConfigScope := by
    simp [Completion.poller, hrequest]
  cases h with
  | polled _ _ hpoller hconfig | pushed _ _ hpoller hconfig =>
    subst hpoller hconfig
    exact ⟨by simp, hscope⟩
  | acknowledged hwrite => simp [hwrite] at hop
  | finished _ hfailed => simp [hok] at hfailed
  | deleted hfinish | stuck hfinish => simp [hfinish] at hop

/-- A poll writes exactly the versions above what the tag remembers.

**Proof sketch.** Of the completions only a poll reads, and it writes if and only if the version it
has read is greater. -/
lemma Delivered.write_iff {effects : List (Effect α)} {s' : TagOnQueue α}
    (h : Delivered completion s effects s') {scope : ConfigScope} {config : EngineConfig α}
    (hpoll : .queryConfig scope config ∈ effects) :
    (∃ response, .write response ∈ effects) ↔
      (completion.poller s.tag).sinceVersion < config.version := by
  cases h with
  | @polled poller config' hop hok hpoller hconfig hversion =>
    have hconfig' : config = config' := by
      rcases List.mem_append.mp hpoll with hmem | hmem
      · cases completion.mem_spawned hmem
      · simp at hmem
        exact hmem.2
    rw [hconfig', ← hpoller]
    constructor
    · rintro ⟨response, hwrite⟩
      rcases List.mem_append.mp hwrite with hmem | hmem
      · cases completion.mem_spawned hmem
      · simp at hmem
    · intro hlt
      omega
  | @pushed poller config' hop hok hpoller hconfig hversion =>
    have hconfig' : config = config' := by
      rcases List.mem_append.mp hpoll with hmem | hmem
      · cases completion.mem_spawned hmem
      · simp at hmem
        exact hmem.2
    rw [hconfig', ← hpoller]
    exact ⟨fun _ => hversion, fun _ => ⟨⟨config'⟩, by simp⟩⟩
  | acknowledged | finished | deleted | stuck => simp at hpoll

/-- What is written has just been read, and is in `outgoing_` while the write is outstanding.

**Proof sketch.** Of the completions only a poll writes, and it writes what it has read. -/
lemma Delivered.of_write {effects : List (Effect α)} {s' : TagOnQueue α}
    (h : Delivered completion s effects s') {response : SubscribeEngineConfigResponse α}
    (hwrite : .write response ∈ effects) :
    (∃ scope, .queryConfig scope response.engine ∈ effects) ∧ s'.outstanding = [.write] ∧
      s'.tag.outgoing = response := by
  cases h with
  | polled =>
    rcases List.mem_append.mp hwrite with hmem | hmem
    · cases completion.mem_spawned hmem
    · simp at hmem
  | @pushed poller config =>
    have hresponse : response = ⟨config⟩ := by
      rcases List.mem_append.mp hwrite with hmem | hmem
      · cases completion.mem_spawned hmem
      · simpa using hmem
    rw [hresponse]
    exact ⟨⟨poller.scope, by simp⟩, rfl, rfl⟩
  | acknowledged | finished | deleted | stuck => simp at hwrite

/-- A poll knows the acknowledged version. -/
lemma Delivered.acknowledged_of_poll {effects : List (Effect α)} {s' : TagOnQueue α}
    (h : Delivered completion s effects s') (ho : Tracks o s) (hs : s.Bookkept)
    (hmem : completion.operation ∈ s.outstanding) {scope : ConfigScope} {config : EngineConfig α}
    (hpoll : .queryConfig scope config ∈ effects) :
    (o.next completion effects).acknowledged = (completion.poller s.tag).sinceVersion := by
  cases h with
  | polled hop hok hpoller | pushed hop hok hpoller =>
    obtain ⟨hpolled, haccepted, -⟩ := ho.poller hs hmem hop hok
    exact hpolled.acknowledged haccepted
  | acknowledged | finished | deleted | stuck => simp at hpoll

/-- **Pushed versions increase and are complete.** Whatever completes in whatever order with
whatever flag, and whatever the database answers, the versions handed to `Write` increase strictly
and are above the requested one. The tag polls its scope, that of the request, whenever the request
or an alarm completes with success. A poll starts a write if and only if the version that it reads
is above the last acknowledged one, and writes what it has read; `outgoing_` keeps it until the
write completes; and when the write completes with success, `since_version_` is the version
written.

**Proof sketch.** The fields of the tag agree with what is observed (`tracks_final`), step by step
along the run. -/
theorem pushes_increase (completions : List (Completion α)) :
    (observed (subscription.trace completions (created (α := α)))).versions.Pairwise (· < ·) ∧
    (∀ version ∈ (observed (subscription.trace completions (created (α := α)))).versions,
      ∃ since ∈ (observed (subscription.trace completions (created (α := α)))).requested,
        since < version) ∧
    ∀ earlier completion later effects, completions = earlier ++ completion :: later →
      (subscription.step completion (subscription.final earlier created)).1 = some effects →
      (completion.operation = .request ∨ completion.operation = .alarm → completion.ok = true →
        ∃ scope, .queryConfig scope (completion.config scope) ∈ effects ∧
          (subscription.final (earlier ++ [completion]) created).tag.scope = scope ∧
          (completion.operation = .request → scope = completion.request.makeConfigScope)) ∧
      (∀ scope config, .queryConfig scope config ∈ effects →
        ((∃ response, .write response ∈ effects) ↔
          (observed (subscription.trace (earlier ++ [completion]) created)).acknowledged <
            config.version)) ∧
      (∀ response, .write response ∈ effects →
        (∃ scope, .queryConfig scope response.engine ∈ effects) ∧
        ∀ between rest, later = between ++ rest →
          (∀ other ∈ between, other.operation ≠ .write) →
          (subscription.final (earlier ++ completion :: between) created).tag.outgoing =
            response) ∧
      (completion.operation = .write → completion.ok = true →
        (observed (subscription.trace earlier (created (α := α)))).versions.getLast? =
          some (subscription.final (earlier ++ [completion])
            (created (α := α))).tag.sinceVersion) := by
  have htracks := tracks_final completions
  refine ⟨htracks.increasing, fun version hversion => ?_, ?_⟩
  · cases haccepted : (subscription.final completions (created (α := α))).tag.accepted with
    | true =>
      obtain ⟨since, hsince, -, habove⟩ := htracks.requested haccepted
      exact ⟨since, hsince, habove version hversion⟩
    | false =>
      rw [(htracks.unaccepted haccepted).2] at hversion
      cases hversion
  · intro earlier completion later effects hsplit heffects
    have hs := bookkept_final (α := α) earlier
    have hmem := mem_of_step heffects
    have ho := tracks_final (α := α) earlier
    obtain ⟨effects', s', hstep, hdelivered, -⟩ := hs.step hmem
    obtain rfl : effects' = effects := by
      rw [hstep] at heffects
      exact Option.some.inj heffects
    have hobserved : observed (subscription.trace (earlier ++ [completion]) (created (α := α))) =
        (observed (subscription.trace earlier created)).next completion effects' := by
      rw [Machine.trace_append]
      simp [Machine.trace, hstep]
    have hfinal : subscription.final (earlier ++ [completion]) (created (α := α)) = s' := by
      simp [hstep]
    refine ⟨fun hop hok => ?_, fun scope config hpoll => ?_, fun response hwrite => ?_,
      fun hop hok => ?_⟩
    · rw [hfinal]
      obtain ⟨hpolls, hscope⟩ := hdelivered.polls hop hok
      exact ⟨_, hpolls, rfl, hscope⟩
    · rw [hobserved, hdelivered.acknowledged_of_poll ho hs hmem hpoll]
      exact hdelivered.write_iff hpoll
    · obtain ⟨hscope, hout, houtgoing⟩ := hdelivered.of_write hwrite
      refine ⟨hscope, fun between rest hlater hother => ?_⟩
      have hkeep : subscription.final between s' = s' := by
        apply final_of_not_outstanding
        intro other hmem'
        rw [hout]
        simpa using hother other hmem'
      rw [Machine.final_append, Machine.final_cons, hstep, hkeep]
      exact houtgoing
    · have hwrite : Operation.write ∈ (subscription.final earlier (created (α := α))).outstanding :=
        hop ▸ hmem
      rw [hfinal, (ho.writing hwrite).1]
      cases hdelivered with
      | acknowledged => rfl
      | polled h | pushed h => simp [hop] at h
      | finished _ h => simp [hok] at h
      | deleted h | stuck h => simp [hop] at h

end ConfigService
