import QTradeService.ConfigService.SubscribeTag
import QTradeService.Library.Machine

set_option relaxedAutoImplicit false
set_option autoImplicit false

/-!
# A subscription on the completion queue

A `SubscribeConfigCallTag` together with the operations it has started and that have not
completed. The queue delivers each of them once, in any order and with any flag; a delivery runs
`Proceed`.

## Main definitions

* `ConfigService.Operation` — the operations of a tag; `ConfigService.Completion` — their
  completions.
* `ConfigService.TagOnQueue` — a tag with its outstanding operations.
* `ConfigService.subscription` — the tag and the queue as a machine.
* `ConfigService.TagOnQueue.Bookkept` — the flags of the tag tell what is outstanding.
* `ConfigService.Delivered` — everything that the delivery of a completion can do.

## Main results

* `ConfigService.TagOnQueue.Bookkept.step` — a delivery is one of these, and keeps the
  bookkeeping.
-/

namespace ConfigService

open Grpc

variable {α : Type}

/-! ## The queue -/

/-- The operations of a tag on the completion queue. -/
inductive Operation
  | request
  | alarm
  | write
  | finish
  deriving DecidableEq, Repr

/-- The operation that an effect starts. A cancelled alarm completes as well. -/
def Effect.operation : Effect α → Option Operation
  | .requestSubscribeEngineConfig => some .request
  | .setAlarm => some .alarm
  | .write _ => some .write
  | .finish _ => some .finish
  | .spawnSubscribeEngineConfig | .queryConfig .. | .cancelAlarm | .delete => none

/-- The effect deletes the tag. -/
def Effect.isDelete : Effect α → Bool
  | .delete => true
  | _ => false

/-- A completion: the operation, its flag, and what else the environment decides. -/
structure Completion (α : Type) where
  operation : Operation
  ok : Bool
  /-- The message of the call that a request has accepted. -/
  request : SubscribeEngineConfigRequest
  /-- What `QueryConfig` answers while the completion is handled. -/
  config : ConfigScope → EngineConfig α

/-- A tag with its operations that have not completed. -/
structure TagOnQueue (α : Type) where
  tag : SubscribeConfigCallTag α
  outstanding : List Operation
  deleted : Bool
  deriving DecidableEq, Repr

namespace TagOnQueue

/-- Run `Proceed`: what it starts is outstanding from then on. -/
def proceed (query : ConfigScope → EngineConfig α) (ok : Bool) (s : TagOnQueue α) :
    List (Effect α) × TagOnQueue α :=
  let (effects, tag) := s.tag.proceed query ok
  (effects,
    { tag := tag
      outstanding := s.outstanding ++ effects.filterMap Effect.operation
      deleted := s.deleted || effects.any Effect.isDelete })

/-- A tag that has just been made: the constructor runs `Proceed(true)`. -/
def created : TagOnQueue α :=
  (proceed (fun _ => {}) true { tag := {}, outstanding := [], deleted := false }).2

/-- The request has filled in the message of the call, if it has accepted one. -/
def receive (completion : Completion α) (tag : SubscribeConfigCallTag α) :
    SubscribeConfigCallTag α :=
  if completion.operation = .request ∧ completion.ok = true then
    { tag with request := completion.request }
  else tag

/-- Deliver a completion, if its operation is outstanding. -/
def deliver (completion : Completion α) (s : TagOnQueue α) :
    Option (List (Effect α)) × TagOnQueue α :=
  if completion.operation ∈ s.outstanding then
    let (effects, s') := proceed completion.config completion.ok
      { s with
        tag := receive completion s.tag
        outstanding := s.outstanding.erase completion.operation }
    (some effects, s')
  else (none, s)

/-- What is not outstanding is not delivered. -/
lemma deliver_of_not_mem {completion : Completion α} {s : TagOnQueue α}
    (h : completion.operation ∉ s.outstanding) : deliver completion s = (none, s) :=
  if_neg h

end TagOnQueue

/-- The completions of a tag, each answered with what the tag does. -/
def subscription : Machine (TagOnQueue α) (Completion α) (Option (List (Effect α))) where
  step := TagOnQueue.deliver

/-! ## Bookkeeping -/

/-- The flags of the tag tell which operation is outstanding. -/
inductive TagOnQueue.Bookkept : TagOnQueue α → Prop
  | requested {tag : SubscribeConfigCallTag α} (hstatus : tag.status = .kAccept)
      (haccepted : tag.accepted = false) (hwriting : tag.writeInFlight = false)
      (hfinished : tag.finished = false) : Bookkept ⟨tag, [.request], false⟩
  | waiting {tag : SubscribeConfigCallTag α} (hstatus : tag.status = .kAccept)
      (haccepted : tag.accepted = true) (hwriting : tag.writeInFlight = false)
      (hfinished : tag.finished = false) : Bookkept ⟨tag, [.alarm], false⟩
  | writing {tag : SubscribeConfigCallTag α} (hstatus : tag.status = .kWrite)
      (haccepted : tag.accepted = true) (hfinished : tag.finished = false) :
      Bookkept ⟨tag, [.write], false⟩
  | finishing {tag : SubscribeConfigCallTag α} (hstatus : tag.status = .kFinish)
      (hfinished : tag.finished = true) : Bookkept ⟨tag, [.finish], false⟩
  | done {tag : SubscribeConfigCallTag α} {deleted : Bool} (hstatus : tag.status = .kFinish)
      (hfinished : tag.finished = true) : Bookkept ⟨tag, [], deleted⟩

/-- What the tag does first when its request or its alarm completes. -/
def Completion.spawned (completion : Completion α) : List (Effect α) :=
  if completion.operation = .request then [.spawnSubscribeEngineConfig] else []

/-- Only the completion of the request calls the handler first. -/
lemma Completion.mem_spawned (completion : Completion α) {effect : Effect α}
    (h : effect ∈ completion.spawned) : effect = .spawnSubscribeEngineConfig := by
  unfold Completion.spawned at h
  split at h
  · exact List.mem_singleton.mp h
  · cases h

/-- The tag that polls when its request or its alarm completes. -/
def Completion.poller (completion : Completion α) (tag : SubscribeConfigCallTag α) :
    SubscribeConfigCallTag α :=
  if completion.operation = .request then
    { tag with
      request := completion.request
      accepted := true
      scope := completion.request.makeConfigScope
      sinceVersion := completion.request.sinceVersion }
  else tag

/-- What the delivery of a completion can do: the effects and the tag after it. -/
inductive Delivered (completion : Completion α) (s : TagOnQueue α) :
    List (Effect α) → TagOnQueue α → Prop
  /-- The tag polls and waits for the next poll. -/
  | polled {poller : SubscribeConfigCallTag α} {config : EngineConfig α}
      (hop : completion.operation = .request ∨ completion.operation = .alarm)
      (hok : completion.ok = true) (hpoller : poller = completion.poller s.tag)
      (hconfig : config = completion.config poller.scope)
      (hversion : config.version ≤ poller.sinceVersion) :
      Delivered completion s
        (completion.spawned ++ [.queryConfig poller.scope config, .setAlarm])
        ⟨poller, [.alarm], false⟩
  /-- The tag polls and writes what it has read. -/
  | pushed {poller : SubscribeConfigCallTag α} {config : EngineConfig α}
      (hop : completion.operation = .request ∨ completion.operation = .alarm)
      (hok : completion.ok = true) (hpoller : poller = completion.poller s.tag)
      (hconfig : config = completion.config poller.scope)
      (hversion : poller.sinceVersion < config.version) :
      Delivered completion s
        (completion.spawned ++ [.queryConfig poller.scope config, .write ⟨config⟩])
        ⟨{ poller with outgoing := ⟨config⟩, writeInFlight := true, status := .kWrite },
          [.write], false⟩
  /-- A write is done. -/
  | acknowledged (hop : completion.operation = .write) (hok : completion.ok = true) :
      Delivered completion s [.setAlarm]
        ⟨{ s.tag with
            writeInFlight := false
            sinceVersion := s.tag.outgoing.engine.version
            status := .kAccept }, [.alarm], false⟩
  /-- An operation has failed, and the tag finishes the call. -/
  | finished (hop : completion.operation ≠ .finish) (hok : completion.ok = false) :
      Delivered completion s [.cancelAlarm, .finish ⟨.cancelled, "cancelled"⟩]
        ⟨{ s.tag with finished := true, status := .kFinish }, [.finish], false⟩
  /-- The call is finished, and the tag deletes itself. -/
  | deleted (hop : completion.operation = .finish) (hok : completion.ok = true) :
      Delivered completion s [.delete] ⟨s.tag, [], true⟩
  /-- Finishing the call has failed, and nothing happens any more. -/
  | stuck (hop : completion.operation = .finish) (hok : completion.ok = false) :
      Delivered completion s [] ⟨s.tag, [], false⟩

namespace TagOnQueue

/-- A tag that has just been made has its request outstanding. -/
lemma bookkept_created : (created : TagOnQueue α).Bookkept :=
  .requested rfl rfl rfl rfl

variable {completion : Completion α} {s : TagOnQueue α}

/-- A tag that writes is accepted. -/
lemma Bookkept.accepted_of_write (hs : s.Bookkept) (h : Operation.write ∈ s.outstanding) :
    s.tag.accepted = true := by
  cases hs with
  | writing _ haccepted => exact haccepted
  | requested | waiting | finishing | done => simp at h

/-- The delivery of the only outstanding operation runs `Proceed`. -/
lemma deliver_singleton {tag : SubscribeConfigCallTag α} {effects : List (Effect α)}
    {tag' : SubscribeConfigCallTag α}
    (hproceed : (receive completion tag).proceed completion.config completion.ok =
      (effects, tag')) :
    deliver completion ⟨tag, [completion.operation], false⟩ =
      (some effects, ⟨tag', effects.filterMap Effect.operation, effects.any Effect.isDelete⟩) := by
  simp [deliver, proceed, hproceed]

/-- Only a request fills in a message. -/
lemma receive_of_ne (tag : SubscribeConfigCallTag α)
    (h : completion.operation ≠ .request ∨ completion.ok = false) :
    receive completion tag = tag := by
  apply if_neg
  rcases h with h | h <;> simp [h]

/-- A failed completion finishes the call.

**Proof sketch.** In each of the three states the tag is not finished, and so cancels the alarm and
finishes the call. -/
lemma Bookkept.deliver_failed (hs : s.Bookkept) (hop : completion.operation ∈ s.outstanding)
    (hfinish : completion.operation ≠ .finish) (hok : completion.ok = false) :
    ∃ effects s', deliver completion s = (some effects, s') ∧ Delivered completion s effects s' ∧
      s'.Bookkept := by
  refine ⟨_, _, ?_, .finished hfinish hok, .finishing rfl rfl⟩
  have hproceed (tag : SubscribeConfigCallTag α) (hstatus : tag.status ≠ .kCreate)
      (hfinished : tag.finished = false) :
      (receive completion tag).proceed completion.config completion.ok =
        ([.cancelAlarm, .finish ⟨.cancelled, "cancelled"⟩],
          { tag with finished := true, status := .kFinish }) := by
    rw [receive_of_ne tag (.inr hok), hok, SubscribeConfigCallTag.proceed_failed hstatus,
      SubscribeConfigCallTag.finish_eq hfinished]
  cases hs with
  | @requested tag hstatus _ _ hfinished | @waiting tag hstatus _ _ hfinished
  | @writing tag hstatus _ hfinished =>
    rw [← List.mem_singleton.mp hop]
    exact deliver_singleton (hproceed tag (by simp [hstatus]) hfinished)
  | finishing => exact absurd (List.mem_singleton.mp hop) hfinish
  | done => cases hop

/-- The completion of a finished call.

**Proof sketch.** Only a finished tag has `Finish` outstanding. With `ok` it is deleted, and
otherwise it is left with nothing outstanding. -/
lemma Bookkept.deliver_finish (hs : s.Bookkept) (hop : completion.operation ∈ s.outstanding)
    (hfinish : completion.operation = .finish) :
    ∃ effects s', deliver completion s = (some effects, s') ∧ Delivered completion s effects s' ∧
      s'.Bookkept := by
  cases hs with
  | @finishing tag hstatus hfinished =>
    have hreceive := receive_of_ne tag (.inl (by simp [hfinish]) : _ ∨ completion.ok = false)
    rw [← hfinish]
    cases hok : completion.ok with
    | true =>
      refine ⟨_, _, deliver_singleton ?_, .deleted hfinish hok, .done hstatus hfinished⟩
      rw [hreceive, hok]
      exact SubscribeConfigCallTag.proceed_finish hstatus
    | false =>
      refine ⟨_, _, deliver_singleton ?_, .stuck hfinish hok, .done hstatus hfinished⟩
      rw [hreceive, hok, SubscribeConfigCallTag.proceed_failed (by simp [hstatus])]
      simp [SubscribeConfigCallTag.finish, hfinished]
  | requested | waiting | writing => simp [hfinish] at hop
  | done => cases hop

/-- The completion of a write. -/
lemma Bookkept.deliver_write (hs : s.Bookkept) (hop : completion.operation ∈ s.outstanding)
    (hwrite : completion.operation = .write) (hok : completion.ok = true) :
    ∃ effects s', deliver completion s = (some effects, s') ∧ Delivered completion s effects s' ∧
      s'.Bookkept := by
  cases hs with
  | @writing tag hstatus haccepted hfinished =>
    rw [← hwrite]
    refine ⟨_, _, deliver_singleton ?_, .acknowledged hwrite hok,
      .waiting rfl haccepted rfl hfinished⟩
    rw [receive_of_ne tag (.inl (by simp [hwrite])), hok]
    exact SubscribeConfigCallTag.proceed_write hstatus hfinished
  | requested | waiting | finishing => simp [hwrite] at hop
  | done => cases hop

/-- The completion of the request or of the alarm.

**Proof sketch.** The tag comes to poll in two ways: its request is accepted, which makes the
next tag first, or its alarm has rung. From there on both read the configuration and compare its
version. -/
lemma Bookkept.deliver_poll (hs : s.Bookkept) (hop : completion.operation ∈ s.outstanding)
    (hpoll : completion.operation = .request ∨ completion.operation = .alarm)
    (hok : completion.ok = true) :
    ∃ effects s', deliver completion s = (some effects, s') ∧ Delivered completion s effects s' ∧
      s'.Bookkept := by
  set poller := completion.poller s.tag with hpoller
  -- the flags of the tag that polls, and how it comes to poll
  obtain ⟨haccepted, hwriting, hfinished, hstatus, hdeliver⟩ :
      poller.accepted = true ∧ poller.writeInFlight = false ∧ poller.finished = false ∧
        poller.status = .kAccept ∧ ∀ effects tag',
        poller.proceedAccept completion.config = (effects, tag') →
        deliver completion s = (some (completion.spawned ++ effects),
          ⟨tag', effects.filterMap Effect.operation, effects.any Effect.isDelete⟩) := by
    cases hs with
    | @requested tag hstatus haccepted hwriting hfinished =>
      have hrequest := List.mem_singleton.mp hop
      refine ⟨?_, ?_, ?_, ?_, fun effects tag' hproceed => ?_⟩
      · simp [hpoller, Completion.poller, hrequest]
      · simp [hpoller, Completion.poller, hrequest, hwriting]
      · simp [hpoller, Completion.poller, hrequest, hfinished]
      · simp [hpoller, Completion.poller, hrequest, hstatus]
      · have hrun : (receive completion tag).proceed completion.config completion.ok =
            (.spawnSubscribeEngineConfig :: effects, tag') := by
          set received : SubscribeConfigCallTag α :=
            { tag with request := completion.request } with hreceived
          have hreceive : receive completion tag = received := if_pos ⟨hrequest, hok⟩
          have htag : poller = { tag with
              request := completion.request
              accepted := true
              scope := completion.request.makeConfigScope
              sinceVersion := completion.request.sinceVersion } := by
            simp [hpoller, Completion.poller, hrequest]
          have hstatus' : received.status = .kAccept := hstatus
          have haccepted' : received.accepted = false := haccepted
          rw [hreceive, hok, SubscribeConfigCallTag.proceed_accept hstatus',
            SubscribeConfigCallTag.proceedAccept_first haccepted']
          simp only [hreceived, ← htag, hproceed]
        rw [← hrequest, deliver_singleton hrun]
        simp [Completion.spawned, hrequest, List.filterMap_cons, Effect.operation,
          Effect.isDelete]
    | @waiting tag hstatus haccepted hwriting hfinished =>
      have halarm := List.mem_singleton.mp hop
      have htag : poller = tag := by simp [hpoller, Completion.poller, halarm]
      refine ⟨htag ▸ haccepted, htag ▸ hwriting, htag ▸ hfinished, htag ▸ hstatus,
        fun effects tag' hproceed => ?_⟩
      have hrun : (receive completion tag).proceed completion.config completion.ok =
          (effects, tag') := by
        rw [receive_of_ne tag (.inl (by simp [halarm])), hok,
          SubscribeConfigCallTag.proceed_accept hstatus, ← htag, hproceed]
      rw [← halarm, deliver_singleton hrun]
      simp [Completion.spawned, halarm]
    | writing | finishing => rcases hpoll with h | h <;> simp [h] at hop
    | done => cases hop
  by_cases hversion : (completion.config poller.scope).version ≤ poller.sinceVersion
  · refine ⟨_, _, hdeliver _ _ ?_, .polled hpoll hok hpoller rfl hversion,
      .waiting hstatus haccepted hwriting hfinished⟩
    exact SubscribeConfigCallTag.proceedAccept_polled haccepted hwriting hfinished hversion
  · refine ⟨_, _, hdeliver _ _ ?_, .pushed hpoll hok hpoller rfl (by omega),
      .writing rfl haccepted hfinished⟩
    exact SubscribeConfigCallTag.proceedAccept_pushed haccepted hwriting hfinished (by omega)

/-- Delivering a completion to a tag that keeps its books is one of the things that
`Delivered` lists, and the books are kept.

**Proof sketch.** The operation that completes is the only one outstanding, so the flags of the
tag, from which `Proceed` guesses it, are those of that operation. -/
theorem Bookkept.step (hs : s.Bookkept) (hop : completion.operation ∈ s.outstanding) :
    ∃ effects s', subscription.step completion s = (some effects, s') ∧
      Delivered completion s effects s' ∧ s'.Bookkept := by
  by_cases hfinish : completion.operation = .finish
  · exact hs.deliver_finish hop hfinish
  · cases hok : completion.ok with
    | false => exact hs.deliver_failed hop hfinish hok
    | true =>
      cases hcase : completion.operation with
      | write => exact hs.deliver_write hop hcase hok
      | request => exact hs.deliver_poll hop (.inl hcase) hok
      | alarm => exact hs.deliver_poll hop (.inr hcase) hok
      | finish => exact absurd hcase hfinish

end TagOnQueue

end ConfigService
