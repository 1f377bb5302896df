import Mathlib.Data.List.Basic
import QTradeService.Grpc.Status

set_option relaxedAutoImplicit false
set_option autoImplicit false

/-!
# The call tag of a unary call

`UnaryCallTag` (`framework/grpc/async/unary_call_tag.hpp`): one unary call on the completion
queue, for any request and response. The tag requests a call, handles it, finishes it, and then
makes the tag of the next call and deletes itself.

## Main definitions

* `Grpc.UnaryCallTag` — the fields of the tag; `Grpc.UnaryCallTag.proceed` — `Proceed`.
* `Grpc.UnaryOnQueue` — the tag with its outstanding operations, and the delivery of a completion.
* `Grpc.UnaryOnQueue.Bookkept` — the status of the tag tells what is outstanding.

## Main results

* `Grpc.UnaryOnQueue.Bookkept.deliver` — what a delivery does.
* `Grpc.UnaryOnQueue.Bookkept.any_usesHandler` — when a delivery calls the handler.
-/

namespace Grpc

variable {Request Response : Type}

/-- Where the call is (`CallStatus`). -/
inductive UnaryStatus
  | kCreate
  | kProcess
  | kFinish
  deriving DecidableEq, Repr

/-- The fields of a `UnaryCallTag` that change. -/
structure UnaryCallTag (Request Response : Type) where
  request : Request
  response : Response
  status : UnaryStatus := .kCreate
  deriving DecidableEq, Repr

/-- What a tag does besides changing its fields. -/
inductive UnaryEffect (Request Response : Type)
  | requestMethod
  /-- The call of the handler, which fills in the response. -/
  | handlerFn (request : Request)
  | finish (response : Response) (status : Status)
  | respawnFn
  | delete
  deriving DecidableEq, Repr

/-- `Proceed`: the effects of the step, in order, and the tag after it. The handler reads the
request and fills in the response. -/
def UnaryCallTag.proceed (handlerFn : Request → Response → Response × Status) (ok : Bool)
    (tag : UnaryCallTag Request Response) :
    List (UnaryEffect Request Response) × UnaryCallTag Request Response :=
  if !ok then ([.delete], tag)
  else
    match tag.status with
    | .kCreate => ([.requestMethod], { tag with status := .kProcess })
    | .kProcess =>
      let (response, status) := handlerFn tag.request tag.response
      ([.handlerFn tag.request, .finish response status],
        { tag with response := response, status := .kFinish })
    | .kFinish => ([.respawnFn, .delete], tag)

/-! ## The queue -/

/-- The operations of a tag on the completion queue. -/
inductive UnaryOperation
  | request
  | finish
  deriving DecidableEq, Repr

/-- The operation that an effect starts. -/
def UnaryEffect.operation : UnaryEffect Request Response → Option UnaryOperation
  | .requestMethod => some .request
  | .finish .. => some .finish
  | .handlerFn _ | .respawnFn | .delete => none

/-- The effect deletes the tag. -/
def UnaryEffect.isDelete : UnaryEffect Request Response → Bool
  | .delete => true
  | _ => false

/-- The effect makes the tag of the next call. -/
def UnaryEffect.isRespawn : UnaryEffect Request Response → Bool
  | .respawnFn => true
  | _ => false

/-- The effect calls the handler. -/
def UnaryEffect.usesHandler : UnaryEffect Request Response → Bool
  | .handlerFn _ | .respawnFn => true
  | .requestMethod | .finish .. | .delete => false

/-- A completion: the operation, its flag, and the message of the call if it is accepted. -/
structure UnaryCompletion (Request : Type) where
  operation : UnaryOperation
  ok : Bool
  request : Request

/-- A tag with its operations that have not completed. -/
structure UnaryOnQueue (Request Response : Type) where
  tag : UnaryCallTag Request Response
  outstanding : List UnaryOperation
  deleted : Bool
  deriving DecidableEq, Repr

namespace UnaryOnQueue

variable (handlerFn : Request → Response → Response × Status)

/-- Run `Proceed`: what it starts is outstanding from then on. -/
def proceed (ok : Bool) (s : UnaryOnQueue Request Response) :
    List (UnaryEffect Request Response) × UnaryOnQueue Request Response :=
  let (effects, tag) := s.tag.proceed handlerFn ok
  (effects,
    { tag := tag
      outstanding := s.outstanding ++ effects.filterMap UnaryEffect.operation
      deleted := s.deleted || effects.any UnaryEffect.isDelete })

/-- A tag that has just been made: the constructor runs `Proceed(true)`. -/
def created (request : Request) (response : Response) : UnaryOnQueue Request Response :=
  (proceed handlerFn true
    { tag := { request := request, response := response }, outstanding := [], deleted := false }).2

/-- The request has filled in the message of the call, if it has accepted one. -/
def receive (completion : UnaryCompletion Request) (tag : UnaryCallTag Request Response) :
    UnaryCallTag Request Response :=
  if completion.operation = .request ∧ completion.ok = true then
    { tag with request := completion.request }
  else tag

/-- Deliver a completion, if its operation is outstanding. -/
def deliver (completion : UnaryCompletion Request) (s : UnaryOnQueue Request Response) :
    Option (List (UnaryEffect Request Response)) × UnaryOnQueue Request Response :=
  if completion.operation ∈ s.outstanding then
    let (effects, s') := proceed handlerFn completion.ok
      { s with
        tag := receive completion s.tag
        outstanding := s.outstanding.erase completion.operation }
    (some effects, s')
  else (none, s)

/-- The status of the tag tells which operation is outstanding. -/
inductive Bookkept : UnaryOnQueue Request Response → Prop
  | requested {tag : UnaryCallTag Request Response} (hstatus : tag.status = .kProcess) :
      Bookkept ⟨tag, [.request], false⟩
  | finishing {tag : UnaryCallTag Request Response} (hstatus : tag.status = .kFinish) :
      Bookkept ⟨tag, [.finish], false⟩
  | deleted {tag : UnaryCallTag Request Response} : Bookkept ⟨tag, [], true⟩

/-- A tag that has just been made has its request outstanding. -/
lemma bookkept_created (request : Request) (response : Response) :
    (created handlerFn request response).Bookkept :=
  .requested rfl

variable {handlerFn} {completion : UnaryCompletion Request} {s : UnaryOnQueue Request Response}

/-- A tag with an outstanding operation is not deleted. -/
lemma Bookkept.deleted_eq_false (hs : s.Bookkept)
    (hmem : completion.operation ∈ s.outstanding) : s.deleted = false := by
  cases hs with
  | requested | finishing => rfl
  | deleted => cases hmem

/-- The delivery of the only outstanding operation runs `Proceed`. -/
lemma deliver_singleton {tag tag' : UnaryCallTag Request Response}
    {effects : List (UnaryEffect Request Response)}
    (hproceed : (receive completion tag).proceed handlerFn completion.ok = (effects, tag')) :
    deliver handlerFn completion ⟨tag, [completion.operation], false⟩ =
      (some effects,
        ⟨tag', effects.filterMap UnaryEffect.operation, effects.any UnaryEffect.isDelete⟩) := by
  simp [deliver, proceed, hproceed]

/-- The message does not change the status. -/
lemma receive_status (tag : UnaryCallTag Request Response) :
    (receive completion tag).status = tag.status := by
  unfold receive
  split <;> rfl

/-- What the delivery of a completion does: a failure deletes the tag, a request is handled and
finished, and after that the next tag is made and this one deleted.

**Proof sketch.** The tag has one operation outstanding, whose kind its status knows. A failure
deletes the tag; otherwise a request is handled and finished, and what was finished makes the next
tag and deletes this one. -/
lemma Bookkept.deliver (handlerFn : Request → Response → Response × Status) (hs : s.Bookkept)
    (hmem : completion.operation ∈ s.outstanding) :
    ∃ effects s', deliver handlerFn completion s = (some effects, s') ∧ s'.Bookkept ∧
      s'.deleted = (!completion.ok || completion.operation = .finish) ∧
      effects.any UnaryEffect.isRespawn = (completion.ok && completion.operation = .finish) := by
  obtain ⟨tag, outstanding, deleted⟩ := s
  have hsingle : outstanding = [completion.operation] ∧ deleted = false := by
    cases hs with
    | requested | finishing => exact ⟨by rw [List.mem_singleton.mp hmem], rfl⟩
    | deleted => cases hmem
  obtain ⟨rfl, rfl⟩ := hsingle
  set received := receive completion tag with hreceived
  cases hok : completion.ok with
  | false =>
    have hrun : received.proceed handlerFn completion.ok = ([.delete], received) := by
      simp [UnaryCallTag.proceed, hok]
    exact ⟨_, _, deliver_singleton hrun, .deleted, rfl, rfl⟩
  | true =>
    cases hop : completion.operation with
    | request =>
      have hstatus : received.status = .kProcess := by
        rw [hreceived, receive_status]
        rw [hop] at hs
        cases hs with
        | requested hstatus => exact hstatus
      set handled := handlerFn received.request received.response with hhandled
      have hrun : received.proceed handlerFn completion.ok =
          ([.handlerFn received.request, .finish handled.1 handled.2],
            { received with response := handled.1, status := .kFinish }) := by
        simp [UnaryCallTag.proceed, hok, hstatus, ← hhandled]
      rw [← hop]
      refine ⟨_, _, deliver_singleton hrun, .finishing rfl, ?_, ?_⟩
      · simp [hop, UnaryEffect.isDelete]
      · simp [hop, UnaryEffect.isRespawn]
    | finish =>
      have hstatus : received.status = .kFinish := by
        rw [hreceived, receive_status]
        rw [hop] at hs
        cases hs with
        | finishing hstatus => exact hstatus
      have hrun : received.proceed handlerFn completion.ok =
          ([.respawnFn, .delete], received) := by
        simp [UnaryCallTag.proceed, hok, hstatus]
      rw [← hop]
      refine ⟨_, _, deliver_singleton hrun, .deleted, ?_, ?_⟩
      · simp [hop, UnaryEffect.isDelete]
      · simp [hop, UnaryEffect.isRespawn]

/-- The tag calls the handler whenever an operation has succeeded, and only then. -/
lemma Bookkept.any_usesHandler (handlerFn : Request → Response → Response × Status)
    (hs : s.Bookkept) (hmem : completion.operation ∈ s.outstanding) :
    ((UnaryOnQueue.deliver handlerFn completion s).1.getD []).any UnaryEffect.usesHandler =
      completion.ok := by
  cases hok : completion.ok with
  | false => simp [UnaryOnQueue.deliver, proceed, hmem, UnaryCallTag.proceed, hok,
      UnaryEffect.usesHandler]
  | true =>
    cases hs with
    | requested hstatus | finishing hstatus =>
      simp [UnaryOnQueue.deliver, proceed, hmem, UnaryCallTag.proceed, hok, receive_status, hstatus,
        UnaryEffect.usesHandler]
    | deleted => cases hmem

end UnaryOnQueue

end Grpc
