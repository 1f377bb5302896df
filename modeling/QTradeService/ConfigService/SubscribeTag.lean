import QTradeService.ConfigService.Messages
import QTradeService.Grpc.Status

set_option relaxedAutoImplicit false
set_option autoImplicit false

/-!
# The call tag of a subscription

`SubscribeConfigCallTag`: one `SubscribeEngineConfig` call on the completion queue. `Proceed` is
the only entry; it is run when the tag is made and whenever an operation of the tag completes, and
it finds out from the fields of the tag which operation that was.

## Main definitions

* `ConfigService.SubscribeConfigCallTag` — the fields of the tag.
* `ConfigService.Effect` — what the tag does besides changing its fields.
* `ConfigService.SubscribeConfigCallTag.proceed` — `Proceed`, with its effects in order.
-/

namespace ConfigService

open Grpc

variable {α : Type}

/-- Where the call is (`CallStatus`). -/
inductive SubscribeStatus
  | kCreate
  | kAccept
  | kWrite
  | kFinish
  deriving DecidableEq, Repr

/-- The fields of a `SubscribeConfigCallTag` that change. -/
structure SubscribeConfigCallTag (α : Type) where
  request : SubscribeEngineConfigRequest := {}
  outgoing : SubscribeEngineConfigResponse α := {}
  scope : ConfigScope := {}
  status : SubscribeStatus := .kCreate
  sinceVersion : ℕ := 0
  accepted : Bool := false
  writeInFlight : Bool := false
  finished : Bool := false
  deriving DecidableEq, Repr

/-- What a tag does besides changing its fields: it starts operations on the completion queue,
calls its handler, cancels its alarm, and deletes itself. -/
inductive Effect (α : Type)
  | requestSubscribeEngineConfig
  | spawnSubscribeEngineConfig
  /-- `QueryConfig`, with its answer. -/
  | queryConfig (scope : ConfigScope) (config : EngineConfig α)
  | setAlarm
  | cancelAlarm
  | write (response : SubscribeEngineConfigResponse α)
  | finish (status : Status)
  | delete
  deriving DecidableEq, Repr

namespace SubscribeConfigCallTag

/-- `SchedulePoll`. -/
def schedulePoll (tag : SubscribeConfigCallTag α) : List (Effect α) :=
  if tag.finished then [] else [.setAlarm]

/-- `PollAndMaybeWrite`, where `query` is what `QueryConfig` answers. -/
def pollAndMaybeWrite (query : ConfigScope → EngineConfig α) (tag : SubscribeConfigCallTag α) :
    List (Effect α) × SubscribeConfigCallTag α :=
  if tag.finished || tag.writeInFlight then ([], tag)
  else
    let config := query tag.scope
    if config.version ≤ tag.sinceVersion then ([.queryConfig tag.scope config], tag)
    else
      let outgoing := { tag.outgoing with engine := config }
      ([.queryConfig tag.scope config, .write outgoing],
        { tag with outgoing := outgoing, writeInFlight := true, status := .kWrite })

/-- `Finish`. -/
def finish (status : Status) (tag : SubscribeConfigCallTag α) :
    List (Effect α) × SubscribeConfigCallTag α :=
  if tag.finished then ([], tag)
  else ([.cancelAlarm, .finish status], { tag with finished := true, status := .kFinish })

/-- The step of `Proceed` after the request or the alarm has completed. -/
def proceedAccept (query : ConfigScope → EngineConfig α) (tag : SubscribeConfigCallTag α) :
    List (Effect α) × SubscribeConfigCallTag α :=
  let (spawned, tag) :=
    if tag.accepted then ([], tag)
    else ([.spawnSubscribeEngineConfig],
      { tag with
        accepted := true
        scope := tag.request.makeConfigScope
        sinceVersion := tag.request.sinceVersion })
  let (polled, tag) := tag.pollAndMaybeWrite query
  let scheduled := if !tag.finished && !tag.writeInFlight then tag.schedulePoll else []
  (spawned ++ polled ++ scheduled, tag)

/-- The step of `Proceed` after a write has completed. -/
def proceedWrite (ok : Bool) (tag : SubscribeConfigCallTag α) :
    List (Effect α) × SubscribeConfigCallTag α :=
  let tag := { tag with writeInFlight := false }
  if !ok then tag.finish ⟨.cancelled, "write failed"⟩
  else
    let tag := { tag with sinceVersion := tag.outgoing.engine.version, status := .kAccept }
    (if !tag.finished then tag.schedulePoll else [], tag)

/-- `Proceed`: the effects of the step, in order, and the tag after it. -/
def proceed (query : ConfigScope → EngineConfig α) (ok : Bool) (tag : SubscribeConfigCallTag α) :
    List (Effect α) × SubscribeConfigCallTag α :=
  if !ok && tag.status ≠ .kCreate then tag.finish ⟨.cancelled, "cancelled"⟩
  else
    match tag.status with
    | .kCreate => ([.requestSubscribeEngineConfig], { tag with status := .kAccept })
    | .kAccept => tag.proceedAccept query
    | .kWrite => tag.proceedWrite ok
    | .kFinish => ([.delete], tag)

/-! ## `Proceed` in each status -/

variable {query : ConfigScope → EngineConfig α} {tag : SubscribeConfigCallTag α}

/-- `Finish` of a call that is not finished. -/
lemma finish_eq (hfinished : tag.finished = false) (status : Status) :
    tag.finish status =
      ([.cancelAlarm, .finish status], { tag with finished := true, status := .kFinish }) := by
  simp [finish, hfinished]

/-- A failure after the tag was made. -/
lemma proceed_failed (hstatus : tag.status ≠ .kCreate) :
    tag.proceed query false = tag.finish ⟨.cancelled, "cancelled"⟩ := by
  simp [proceed, hstatus]

/-- The request or the alarm has completed. -/
lemma proceed_accept (hstatus : tag.status = .kAccept) :
    tag.proceed query true = tag.proceedAccept query := by
  simp [proceed, hstatus]

/-- A write has completed. -/
lemma proceed_write (hstatus : tag.status = .kWrite) (hfinished : tag.finished = false) :
    tag.proceed query true =
      ([.setAlarm],
        { tag with
          writeInFlight := false
          sinceVersion := tag.outgoing.engine.version
          status := .kAccept }) := by
  simp [proceed, proceedWrite, schedulePoll, hstatus, hfinished]

/-- The call is finished. -/
lemma proceed_finish (hstatus : tag.status = .kFinish) :
    tag.proceed query true = ([.delete], tag) := by
  simp [proceed, hstatus]

/-- The first step of an accepted call. -/
lemma proceedAccept_first (haccepted : tag.accepted = false) :
    tag.proceedAccept query =
      let tag' := { tag with
        accepted := true
        scope := tag.request.makeConfigScope
        sinceVersion := tag.request.sinceVersion }
      (.spawnSubscribeEngineConfig :: (tag'.proceedAccept query).1,
        (tag'.proceedAccept query).2) := by
  simp [proceedAccept, haccepted]

/-- A poll that reads nothing new. -/
lemma proceedAccept_polled (haccepted : tag.accepted = true) (hwriting : tag.writeInFlight = false)
    (hfinished : tag.finished = false) (hversion : (query tag.scope).version ≤ tag.sinceVersion) :
    tag.proceedAccept query = ([.queryConfig tag.scope (query tag.scope), .setAlarm], tag) := by
  simp [proceedAccept, pollAndMaybeWrite, schedulePoll, haccepted, hwriting, hfinished, hversion]

/-- A poll that reads a later version. -/
lemma proceedAccept_pushed (haccepted : tag.accepted = true) (hwriting : tag.writeInFlight = false)
    (hfinished : tag.finished = false) (hversion : tag.sinceVersion < (query tag.scope).version) :
    tag.proceedAccept query =
      ([.queryConfig tag.scope (query tag.scope), .write ⟨query tag.scope⟩],
        { tag with outgoing := ⟨query tag.scope⟩, writeInFlight := true, status := .kWrite }) := by
  have hlater : ¬(query tag.scope).version ≤ tag.sinceVersion := by omega
  simp [proceedAccept, pollAndMaybeWrite, haccepted, hwriting, hfinished, hlater]

end SubscribeConfigCallTag

end ConfigService
