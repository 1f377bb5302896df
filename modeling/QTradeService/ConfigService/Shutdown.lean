import QTradeService.ConfigService.Listeners

set_option relaxedAutoImplicit false
set_option autoImplicit false

/-!
# Stopping the config service

`SupportAsyncServiceImpl::Stop` against the thread that polls the completion queue. `Stop` shuts
the handler down and destroys it, and only then shuts the server and the queue down and joins the
thread; until the queue is drained the thread delivers completions, and the tags keep a pointer to
the handler.

A step of `Stop` and a `Proceed` are both taken as a whole. The shutdown of the server and of the
queue return at any time; the thread can be joined when nothing is outstanding any more.

## Main definitions

* `ConfigService.StopStage`, `ConfigService.Stopping` — how far `Stop` has come, with the tags.
* `ConfigService.stopping` — `Stop` and the polling thread as a machine.
* `ConfigService.HandlerOutlivesTags` — no `Proceed` uses the handler after its destruction, and
  none sets an alarm on a queue that was shut down.
* `ConfigService.StopsSafely` — the runs in which the completions that come late do no harm.

## Main results

* `ConfigService.handler_outlives_tags_iff` — these are the same runs.
-/

namespace ConfigService

open Grpc

variable {α : Type}

/-! ## The stages of `Stop` -/

/-- How far `Stop` has come. -/
inductive StopStage
  | running
  /-- `handler_->Shutdown()` has returned. -/
  | handlerStopped
  /-- `handler_.reset()` has destroyed the handler. -/
  | handlerDestroyed
  /-- `server_->Shutdown()` has returned. -/
  | serverStopped
  /-- `cq_->Shutdown()` has returned. -/
  | queueStopped
  /-- `loop_->Stop()` has joined the polling thread. -/
  | joined
  deriving DecidableEq, Repr

/-- The handler exists. -/
def StopStage.handlerAlive : StopStage → Bool
  | .running | .handlerStopped => true
  | .handlerDestroyed | .serverStopped | .queueStopped | .joined => false

/-- The queue has not been shut down. -/
def StopStage.queueOpen : StopStage → Bool
  | .running | .handlerStopped | .handlerDestroyed | .serverStopped => true
  | .queueStopped | .joined => false

/-- A queue that was shut down has no handler. -/
lemma StopStage.handlerAlive_of_queueOpen {stage : StopStage} (h : stage.queueOpen = false) :
    stage.handlerAlive = false := by
  cases stage <;> first | rfl | cases h

/-- `Shutdown`, which the destructor calls again. -/
def ConfigGrpcAsyncHandler.shutdown (handler : ConfigGrpcAsyncHandler α) :
    ConfigGrpcAsyncHandler α :=
  { handler with started := false }

/-- The service while it stops. The tags outlive the handler, whose record has them. -/
structure Stopping (α : Type) where
  stage : StopStage
  handler : ConfigGrpcAsyncHandler α

namespace Stopping

/-- No operation of a tag is outstanding. -/
def drained (s : Stopping α) : Bool :=
  (s.handler.getTags.all fun tag => tag.outstanding.isEmpty) &&
    s.handler.subscribeTags.all fun tag => tag.outstanding.isEmpty

/-- The next step of `Stop`. The join waits until `Next` finds the queue shut down and drained. -/
def stop (s : Stopping α) : Stopping α :=
  match s.stage with
  | .running => { stage := .handlerStopped, handler := s.handler.shutdown }
  | .handlerStopped => { stage := .handlerDestroyed, handler := s.handler.shutdown }
  | .handlerDestroyed => { s with stage := .serverStopped }
  | .serverStopped => { s with stage := .queueStopped }
  | .queueStopped => if s.drained then { s with stage := .joined } else s
  | .joined => s

end Stopping

/-! ## What a `Proceed` touches -/

/-- The effect uses the handler. -/
def Effect.usesHandler : Effect α → Bool
  | .spawnSubscribeEngineConfig | .queryConfig .. => true
  | .requestSubscribeEngineConfig | .setAlarm | .cancelAlarm | .write _ | .finish _ | .delete =>
    false

/-- The effect sets an alarm on the queue. -/
def Effect.setsAlarm : Effect α → Bool
  | .setAlarm => true
  | _ => false

/-- What a `Proceed` has touched. -/
structure Touched where
  usesHandler : Bool
  setsAlarm : Bool
  deriving DecidableEq, Repr

/-- What the delivery of a completion to its tag touches. -/
def ListenerEvent.touched (handler : ConfigGrpcAsyncHandler α) : ListenerEvent α → Touched
  | .get index completion config _ =>
    match handler.getTags[index]? with
    | none => ⟨false, false⟩
    | some tag =>
      let effects := (tag.deliver (getEngineConfig config) completion).1.getD []
      ⟨effects.any UnaryEffect.usesHandler, false⟩
  | .subscribe index completion _ =>
    match handler.subscribeTags[index]? with
    | none => ⟨false, false⟩
    | some tag =>
      let effects := (tag.deliver completion).1.getD []
      ⟨effects.any Effect.usesHandler, effects.any Effect.setsAlarm⟩

/-- A step of `Stop`, or a completion that the polling thread delivers. -/
inductive StopEvent (α : Type)
  | stop
  | completion (event : ListenerEvent α)

/-- `Stop` and the polling thread, each step answered with what it touches. After the thread was
joined nothing is delivered. -/
def stopping : Machine (Stopping α) (StopEvent α) Touched where
  step
    | .stop, s => (⟨false, false⟩, s.stop)
    | .completion event, s =>
      if s.stage = .joined then (⟨false, false⟩, s)
      else (event.touched s.handler, { s with handler := (listeners.step event s.handler).2 })

variable {s : Stopping α} {event : ListenerEvent α}

/-- A completion while the thread polls. -/
lemma stopping_completion (h : s.stage ≠ .joined) :
    stopping.step (.completion event) s =
      (event.touched s.handler, { s with handler := (listeners.step event s.handler).2 }) :=
  if_neg h

/-- Nothing happens after the thread was joined. -/
lemma stopping_joined (h : s.stage = .joined) :
    stopping.step (.completion event) s = (⟨false, false⟩, s) :=
  if_pos h

/-! ## Late completions -/

/-- In no state of the run does a `Proceed` use a handler that was destroyed, or set an alarm on a
queue that was shut down. -/
def HandlerOutlivesTags (events : List (StopEvent α)) (s : Stopping α) : Prop :=
  ∀ earlier event later, events = earlier ++ event :: later →
    ((stopping.step event (stopping.final earlier s)).1.usesHandler = true →
      (stopping.final earlier s).stage.handlerAlive = true) ∧
    ((stopping.step event (stopping.final earlier s)).1.setsAlarm = true →
      (stopping.final earlier s).stage.queueOpen = true)

/-- The completion is delivered: the thread still polls, and the operation is outstanding. -/
def Stopping.Delivers (s : Stopping α) (event : ListenerEvent α) : Prop :=
  s.stage ≠ .joined ∧ event.IsOutstanding s.handler

/-- The completion needs no handler: it has failed, or it ends a write or a finish of a
subscription. -/
def ListenerEvent.SparesHandler : ListenerEvent α → Prop
  | .get _ completion _ _ => completion.ok = false
  | .subscribe _ completion _ =>
    completion.ok = false ∨ completion.operation = .write ∨ completion.operation = .finish

/-- The completion is not that of a write that has succeeded. -/
def ListenerEvent.SparesQueue : ListenerEvent α → Prop
  | .get .. => True
  | .subscribe _ completion _ => ¬(completion.operation = .write ∧ completion.ok = true)

/-- Whatever is delivered after the destruction of the handler does not need it, and no write ends
with success after the shutdown of the queue. -/
def StopsSafely (events : List (StopEvent α)) (s : Stopping α) : Prop :=
  ∀ earlier event later, events = earlier ++ .completion event :: later →
    (stopping.final earlier s).Delivers event →
      ((stopping.final earlier s).stage.handlerAlive = false → event.SparesHandler) ∧
      ((stopping.final earlier s).stage.queueOpen = false → event.SparesQueue)

/-! ## One completion -/

/-- A subscription uses the handler when its request or its alarm succeeds. -/
lemma Delivered.any_usesHandler {completion : Completion α} {tag tag' : TagOnQueue α}
    {effects : List (Effect α)} (h : Delivered completion tag effects tag') :
    effects.any Effect.usesHandler = true ↔
      completion.ok = true ∧
        (completion.operation = .request ∨ completion.operation = .alarm) := by
  cases h with
  | polled hop hok | pushed hop hok => simp [hok, hop, Effect.usesHandler]
  | acknowledged hop hok | deleted hop hok => simp [hop, Effect.usesHandler]
  | finished hop hok | stuck hop hok => simp [hok, Effect.usesHandler]

/-- A subscription sets its alarm after a write, and perhaps when it uses the handler. -/
lemma Delivered.any_setsAlarm {completion : Completion α} {tag tag' : TagOnQueue α}
    {effects : List (Effect α)} (h : Delivered completion tag effects tag') :
    (completion.operation = .write ∧ completion.ok = true →
      effects.any Effect.setsAlarm = true) ∧
    (effects.any Effect.setsAlarm = true →
      effects.any Effect.usesHandler = true ∨
        completion.operation = .write ∧ completion.ok = true) := by
  cases h with
  | polled hop hok | pushed hop hok =>
    refine ⟨fun hwrite => ?_, fun _ => .inl (by simp [Effect.usesHandler])⟩
    rcases hop with hop | hop <;> simp [hop] at hwrite
  | acknowledged hop hok => exact ⟨fun _ => rfl, fun _ => .inr ⟨hop, hok⟩⟩
  | deleted hop hok => simp [hop, Effect.setsAlarm]
  | finished hop hok | stuck hop hok => simp [hok, Effect.setsAlarm]

/-- What is not outstanding touches nothing.

**Proof sketch.** A tag that is not there, or that has nothing of the kind outstanding, has no
effects. -/
lemma touched_skip {handler : ConfigGrpcAsyncHandler α} {event : ListenerEvent α}
    (h : ¬event.IsOutstanding handler) : event.touched handler = ⟨false, false⟩ := by
  cases event with
  | get index completion config databaseReady =>
    cases htag : handler.getTags[index]? with
    | none => simp only [ListenerEvent.touched, htag]
    | some tag =>
      have hnot : completion.operation ∉ tag.outstanding := fun hmem => h ⟨tag, htag, hmem⟩
      simp [ListenerEvent.touched, htag, UnaryOnQueue.deliver, hnot]
  | subscribe index completion databaseReady =>
    cases htag : handler.subscribeTags[index]? with
    | none => simp only [ListenerEvent.touched, htag]
    | some tag =>
      have hnot : completion.operation ∉ tag.outstanding := fun hmem => h ⟨tag, htag, hmem⟩
      simp [ListenerEvent.touched, htag, TagOnQueue.deliver, hnot]

/-- What the delivery of an outstanding completion touches: the handler unless it is spared, and
the queue at least after a write.

**Proof sketch.** By cases on the event. A `GetEngineConfig` tag uses the handler if its completion
is `ok`, and sets no alarm; for a subscription the effects of a delivery say it. -/
lemma touched_of_outstanding {handler : ConfigGrpcAsyncHandler α} (h : handler.Bookkept)
    {event : ListenerEvent α} (hout : event.IsOutstanding handler) :
    ((event.touched handler).usesHandler = true ↔ ¬event.SparesHandler) ∧
    (¬event.SparesQueue → (event.touched handler).setsAlarm = true) ∧
    ((event.touched handler).setsAlarm = true →
      (event.touched handler).usesHandler = true ∨ ¬event.SparesQueue) := by
  cases event with
  | get index completion config databaseReady =>
    obtain ⟨tag, htag, hmem⟩ := hout
    have htag : handler.getTags[index]? = some tag := htag
    have huses := (h.getTags tag (List.mem_of_getElem? htag)).any_usesHandler
      (getEngineConfig config) hmem
    have htouched : (ListenerEvent.get index completion config databaseReady).touched handler =
        ⟨completion.ok, false⟩ := by
      simp only [ListenerEvent.touched, htag, huses]
    rw [htouched]
    simp [ListenerEvent.SparesHandler, ListenerEvent.SparesQueue]
  | subscribe index completion databaseReady =>
    obtain ⟨tag, htag, hmem⟩ := hout
    have htag : handler.subscribeTags[index]? = some tag := htag
    obtain ⟨effects, tag', hdeliver, hdelivered, -⟩ :=
      (h.subscribeTags tag (List.mem_of_getElem? htag)).step hmem
    have hdeliver : tag.deliver completion = (some effects, tag') := hdeliver
    have htouched : (ListenerEvent.subscribe index completion databaseReady).touched handler =
        ⟨effects.any Effect.usesHandler, effects.any Effect.setsAlarm⟩ := by
      simp only [ListenerEvent.touched, htag, hdeliver, Option.getD_some]
    obtain ⟨hwrite, halarm⟩ := hdelivered.any_setsAlarm
    rw [htouched]
    refine ⟨?_, fun hspares => hwrite (not_not.mp hspares), fun hsets => ?_⟩
    · rw [hdelivered.any_usesHandler]
      show _ ↔ ¬(completion.ok = false ∨ completion.operation = .write ∨
        completion.operation = .finish)
      cases completion.ok <;> cases completion.operation <;> simp
    · exact (halarm hsets).imp_right not_not.mpr

/-! ## Runs -/

/-- A step keeps the books of all tags.

**Proof sketch.** By the stage. Shutting the handler down sets a flag, and the other stages do not
change its tags. -/
lemma bookkept_stop {s : Stopping α} (h : s.handler.Bookkept) : s.stop.handler.Bookkept := by
  obtain ⟨stage, handler⟩ := s
  have hshutdown : handler.shutdown.Bookkept := ⟨h.getTags, h.subscribeTags⟩
  cases stage with
  | running | handlerStopped => exact hshutdown
  | handlerDestroyed | serverStopped | joined => exact h
  | queueStopped =>
    by_cases hdrained : Stopping.drained ⟨.queueStopped, handler⟩ = true
    · simp only [Stopping.stop, hdrained, if_true]
      exact h
    · simp only [Stopping.stop, hdrained]
      exact h

/-- All tags keep their books while the service stops.

**Proof sketch.** By induction on the run. After the threads are joined nothing is delivered, and
before that the listeners keep the books. -/
lemma bookkept_stopping (events : List (StopEvent α)) {s : Stopping α} (h : s.handler.Bookkept) :
    (stopping.final events s).handler.Bookkept := by
  refine Machine.final_invariant (I := fun s : Stopping α => s.handler.Bookkept) ?_ events h
  intro event s h
  cases event with
  | stop => exact bookkept_stop h
  | completion event =>
    by_cases hjoined : s.stage = .joined
    · rw [stopping_joined hjoined]
      exact h
    · by_cases hout : event.IsOutstanding s.handler
      · rw [stopping_completion hjoined]
        exact (listeners_counts h hout).1
      · rw [stopping_completion hjoined, listeners_skip hout]
        exact h

/-- One step of the run: it does no harm if and only if the completion, should it be delivered, is
spared.

**Proof sketch.** A completion that is not delivered touches nothing. One that is delivered uses the
handler unless it spares it, and sets an alarm after a write or where it uses the handler, which is
destroyed before the queue is closed. -/
lemma touched_iff (h : s.handler.Bookkept) (event : ListenerEvent α) :
    (((stopping.step (.completion event) s).1.usesHandler = true → s.stage.handlerAlive = true) ∧
      ((stopping.step (.completion event) s).1.setsAlarm = true → s.stage.queueOpen = true)) ↔
    (s.Delivers event →
      (s.stage.handlerAlive = false → event.SparesHandler) ∧
      (s.stage.queueOpen = false → event.SparesQueue)) := by
  by_cases hdelivers : s.Delivers event
  · obtain ⟨hjoined, hout⟩ := hdelivers
    obtain ⟨huses, hwrite, halarm⟩ := touched_of_outstanding h hout
    rw [stopping_completion hjoined]
    constructor
    · rintro ⟨hhandler, hqueue⟩ -
      refine ⟨fun hdestroyed => ?_, fun hclosed => ?_⟩
      · by_contra hspares
        rw [hhandler (huses.mpr hspares)] at hdestroyed
        cases hdestroyed
      · by_contra hspares
        rw [hqueue (hwrite hspares)] at hclosed
        cases hclosed
    · intro hspares
      obtain ⟨hhandler, hqueue⟩ := hspares ⟨hjoined, hout⟩
      have hunused (hdestroyed : s.stage.handlerAlive = false) :
          (event.touched s.handler).usesHandler ≠ true :=
        fun hused => huses.mp hused (hhandler hdestroyed)
      refine ⟨fun hused => ?_, fun hsets => ?_⟩
      · by_contra hdestroyed
        exact hunused ((Bool.not_eq_true _).mp hdestroyed) hused
      · by_contra hopen
        have hclosed : s.stage.queueOpen = false := (Bool.not_eq_true _).mp hopen
        rcases halarm hsets with hused | hspares'
        · exact hunused (StopStage.handlerAlive_of_queueOpen hclosed) hused
        · exact hspares' (hqueue hclosed)
  · refine iff_of_true ?_ fun h => absurd h hdelivers
    by_cases hjoined : s.stage = .joined
    · rw [stopping_joined hjoined]
      exact ⟨nofun, nofun⟩
    · rw [stopping_completion hjoined, touched_skip fun hout => hdelivers ⟨hjoined, hout⟩]
      exact ⟨nofun, nofun⟩

/-- **When the handler outlives its tags.** In a run of `Stop` and the polling thread, from any
tags that keep their books, no `Proceed` uses the handler after its destruction and none sets an
alarm after the shutdown of the queue, if and only if every completion that is delivered after the
destruction of the handler has failed or ends a write or a finish of a subscription, and no write
of a subscription ends with success after the shutdown of the queue.

**Proof sketch.** One completion after the other (`touched_iff`): the tags keep their books, so an
outstanding operation tells what the `Proceed` of its completion touches. -/
theorem handler_outlives_tags_iff (handler : ConfigGrpcAsyncHandler α) (h : handler.Bookkept)
    (events : List (StopEvent α)) :
    HandlerOutlivesTags events ⟨.running, handler⟩ ↔ StopsSafely events ⟨.running, handler⟩ := by
  constructor
  · intro hrun earlier event later hsplit
    have hbooks := bookkept_stopping earlier (s := ⟨.running, handler⟩) h
    exact (touched_iff hbooks event).mp (hrun earlier (.completion event) later hsplit)
  · intro hsafe earlier event later hsplit
    have hbooks := bookkept_stopping earlier (s := ⟨.running, handler⟩) h
    cases event with
    | stop => exact ⟨nofun, nofun⟩
    | completion event => exact (touched_iff hbooks event).mpr (hsafe earlier event later hsplit)

/-- A run in which no completion needs the handler stops safely. -/
lemma StopsSafely.of_forall {events : List (StopEvent α)} {s : Stopping α}
    (h : ∀ event, .completion event ∈ events → event.SparesHandler ∧ event.SparesQueue) :
    StopsSafely events s := by
  intro earlier event later hsplit _
  obtain ⟨hhandler, hqueue⟩ := h event (by rw [hsplit]; simp)
  exact ⟨fun _ => hhandler, fun _ => hqueue⟩

/-- `Stop` on a service without calls: both requests fail when the server is shut down, and the
subscription is finished in vain. -/
def stoppedIdle : List (StopEvent ℕ) :=
  [.stop, .stop, .stop, .completion (.get 0 ⟨.request, false, ⟨""⟩⟩ (fun _ => {}) false),
    .completion (.subscribe 0 ⟨.request, false, {}, fun _ => {}⟩ false), .stop,
    .completion (.subscribe 0 ⟨.finish, false, {}, fun _ => {}⟩ false), .stop]

/-- No tag uses the handler late, and the thread is joined. -/
theorem stoppedIdle_handlerOutlivesTags :
    HandlerOutlivesTags stoppedIdle ⟨.running, afterStart true true true⟩ ∧
      (stopping.final stoppedIdle ⟨.running, afterStart true true true⟩).stage = .joined := by
  constructor
  · refine (handler_outlives_tags_iff (afterStart true true true)
      (start_counts true true true).1 stoppedIdle).mpr (.of_forall fun event hmem => ?_)
    simp only [stoppedIdle, List.mem_cons, StopEvent.completion.injEq, reduceCtorEq,
      List.not_mem_nil, false_or, or_false] at hmem
    rcases hmem with rfl | rfl | rfl
    · exact ⟨rfl, trivial⟩
    · exact ⟨.inl rfl, nofun⟩
    · exact ⟨.inl rfl, nofun⟩
  · decide

/-- A `GetEngineConfig` call that is accepted between the destruction of the handler and the
shutdown of the server. -/
def acceptedLate : List (StopEvent ℕ) :=
  [.stop, .stop, .completion (.get 0 ⟨.request, true, ⟨"engine"⟩⟩ (fun _ => {}) true)]

/-- Its tag calls the handler, which does not exist any more.

**Proof sketch.** The run is computed: its last completion uses the handler after that has been
destroyed. -/
theorem acceptedLate_not_handlerOutlivesTags :
    (stopping.final [.stop, .stop]
        ⟨.running, afterStart (α := ℕ) true true true⟩).stage = .handlerDestroyed ∧
      (stopping.trace acceptedLate
        ⟨.running, afterStart true true true⟩).map (fun entry => entry.2) =
        [⟨false, false⟩, ⟨false, false⟩, ⟨true, false⟩] ∧
      ¬HandlerOutlivesTags acceptedLate ⟨.running, afterStart true true true⟩ := by
  have ⟨hstage, htrace⟩ : (stopping.final [.stop, .stop]
        ⟨.running, afterStart (α := ℕ) true true true⟩).stage = .handlerDestroyed ∧
      (stopping.trace acceptedLate
        ⟨.running, afterStart true true true⟩).map (fun entry => entry.2) =
          [⟨false, false⟩, ⟨false, false⟩, ⟨true, false⟩] := by
    decide
  refine ⟨hstage, htrace, fun h => ?_⟩
  have halive := (h [.stop, .stop] _ [] rfl).1
  rw [hstage] at halive
  have huses : (stopping.step (.completion (.get 0 ⟨.request, true, ⟨"engine"⟩⟩ (fun _ => {}) true))
      (stopping.final [.stop, .stop]
        ⟨.running, afterStart (α := ℕ) true true true⟩)).1.usesHandler = true := by
    decide
  exact absurd (halive huses) (by decide)

end ConfigService
