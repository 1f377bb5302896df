import Mathlib.Tactic.Common
import QTradeService.Grpc.HandlerInterface
import QTradeService.Library.Journal

set_option relaxedAutoImplicit false
set_option autoImplicit false

/-!
# When the pipeline rolls back

Whether `GrpcHandlerInterface::Run` rolls back is decided by a flag that is toggled around the
hooks, by three explicit calls of `Rollback` and by a fourth in the `catch` clause. This file
runs the pipeline with a journal of the hooks it calls and of how each of them ended, and reads
the number of rollbacks off the journal, for arbitrary hooks.

## Main definitions

* `Grpc.Entry` — a hook that was called, and how it ended.
* `Grpc.GrpcHandlerInterface.journaled` — a handler that keeps a journal of its hooks.
* `Grpc.Disciplined` — a result and a journal in which the rollbacks are as they should be.

## Main results

* `Grpc.GrpcHandlerInterface.erase_run` — the journal changes nothing.
* `Grpc.rollback_discipline` — at most one rollback; none without business or on success; one
  on every other failure, unless the notification threw.
* `Grpc.notify_exception_not_rolled_back` — a failure after the business without a rollback.
-/

namespace Grpc

/-! ## Journals -/

/-- The hooks of a handler. -/
inductive Hook
  | checkPermission
  | convertToServerData
  | validateParams
  | checkPreconditions
  | executeBusiness
  | verifyExecutionEffective
  | rollback
  | notifyService
  | buildResponse
  deriving DecidableEq, Repr

/-- How a hook ended. -/
inductive Outcome
  | succeeded
  /-- It returned an error code. -/
  | failed
  /-- It threw a `std::exception`. -/
  | threw
  deriving DecidableEq, Repr

/-- A hook that was called, and how it ended. -/
structure Entry where
  hook : Hook
  outcome : Outcome
  deriving DecidableEq, Repr

/-- How a hook that answers with a `Result` ended. -/
def outcomeOf {α : Type} : Except Exception (Result α) → Outcome
  | .error _ => .threw
  | .ok result => if result.errorCode = .kSuccess then .succeeded else .failed

/-- How `Rollback` ended. -/
def rollbackOutcome : Except Exception Unit → Outcome
  | .error _ => .threw
  | .ok () => .succeeded

/-- The number of rollbacks. -/
def rollbacks (journal : List Entry) : ℕ := journal.countP fun entry => entry.hook = .rollback

/-- The business was entered. -/
def Entered (journal : List Entry) : Prop := ∃ entry ∈ journal, entry.hook = .executeBusiness

/-- The notification threw. -/
def NotifyThrew (journal : List Entry) : Prop := ⟨.notifyService, .threw⟩ ∈ journal

/-- No rollback that an error code called for threw. -/
def RollbacksHold (journal : List Entry) : Prop :=
  ∀ pre hook post, journal ≠ pre ++ ⟨hook, .failed⟩ :: ⟨.rollback, .threw⟩ :: post

instance (journal : List Entry) : Decidable (Entered journal) :=
  inferInstanceAs (Decidable (∃ entry ∈ journal, _))

instance (journal : List Entry) : Decidable (NotifyThrew journal) :=
  inferInstanceAs (Decidable (_ ∈ journal))

namespace GrpcHandlerInterface

variable {σ Context Request Response ServerData : Type}

/-- The handler with a journal of the hooks that are called. -/
@[simps]
def journaled (handler : GrpcHandlerInterface (StateM σ) Context Request Response ServerData) :
    GrpcHandlerInterface (Journaled Entry σ) Context Request Response ServerData where
  checkPermission context request :=
    .note (handler.checkPermission context request) fun out => ⟨.checkPermission, outcomeOf out⟩
  convertToServerData context request :=
    .note (handler.convertToServerData context request) fun out =>
      ⟨.convertToServerData, outcomeOf out⟩
  validateParams data :=
    .note (handler.validateParams data) fun out => ⟨.validateParams, outcomeOf out.1⟩
  checkPreconditions data :=
    .note (handler.checkPreconditions data) fun out => ⟨.checkPreconditions, outcomeOf out.1⟩
  executeBusiness data :=
    .note (handler.executeBusiness data) fun out => ⟨.executeBusiness, outcomeOf out.1⟩
  verifyExecutionEffective data :=
    .note (handler.verifyExecutionEffective data) fun out =>
      ⟨.verifyExecutionEffective, outcomeOf out.1⟩
  rollback data := .note (handler.rollback data) fun out => ⟨.rollback, rollbackOutcome out.1⟩
  notifyService data :=
    .note (handler.notifyService data) fun out => ⟨.notifyService, outcomeOf out.1⟩
  buildResponse data response :=
    .note (handler.buildResponse data response) fun out => ⟨.buildResponse, outcomeOf out.1⟩

/-! ## The journal changes nothing -/

section Erase

variable (handler : GrpcHandlerInterface (StateM σ) Context Request Response ServerData)

/-- A failure that rolls back. -/
lemma erase_rollbackAndReturn (result : Result Unit) (data : ServerData) :
    (handler.journaled.rollbackAndReturn result data).erase =
      handler.rollbackAndReturn result data := by
  unfold rollbackAndReturn
  rw [Journaled.erase_bind]
  refine bind_congr fun out => ?_
  obtain ⟨out, data⟩ := out
  cases out <;> rfl

/-- Step 7. -/
lemma erase_build (data : ServerData) (response : Response) :
    (handler.journaled.build data response).erase = handler.build data response := by
  unfold build
  rw [Journaled.erase_bind]
  refine bind_congr fun out => ?_
  obtain ⟨out, data, response⟩ := out
  cases out with
  | error => rfl
  | ok result =>
    by_cases hresult : result.errorCode = .kSuccess
    · simp [hresult]
    · simp [hresult, erase_rollbackAndReturn]

/-- Step 6. -/
lemma erase_notify (data : ServerData) (response : Response) :
    (handler.journaled.notify data response).erase = handler.notify data response := by
  unfold notify
  rw [Journaled.erase_bind]
  refine bind_congr fun out => ?_
  obtain ⟨out, data⟩ := out
  cases out with
  | error => rfl
  | ok result => exact handler.erase_build data response

/-- Step 5. -/
lemma erase_verify (data : ServerData) (response : Response) :
    (handler.journaled.verify data response).erase = handler.verify data response := by
  unfold verify
  rw [Journaled.erase_bind]
  refine bind_congr fun out => ?_
  obtain ⟨out, data⟩ := out
  cases out with
  | error => rfl
  | ok result =>
    by_cases hresult : result.errorCode = .kSuccess
    · simp [hresult, erase_notify]
    · simp [hresult, erase_rollbackAndReturn]

/-- Step 4. -/
lemma erase_execute (data : ServerData) (response : Response) :
    (handler.journaled.execute data response).erase = handler.execute data response := by
  unfold execute
  rw [Journaled.erase_bind]
  refine bind_congr fun out => ?_
  obtain ⟨out, data⟩ := out
  cases out with
  | error => rfl
  | ok result =>
    by_cases hresult : result.errorCode = .kSuccess
    · simp [hresult, erase_verify]
    · simp [hresult, erase_rollbackAndReturn]

/-- Steps 2 and 3.

**Proof sketch.** By what the two hooks answer; the journal is dropped after each. -/
lemma erase_validate (data : ServerData) (response : Response) :
    (handler.journaled.validate data response).erase = handler.validate data response := by
  unfold validate
  rw [Journaled.erase_bind]
  refine bind_congr fun out => ?_
  obtain ⟨out, data⟩ := out
  cases out with
  | error => rfl
  | ok result =>
    by_cases hresult : result.errorCode = .kSuccess
    · simp only [hresult, ne_eq, not_true_eq_false, if_false, Journaled.erase_bind]
      refine bind_congr fun out => ?_
      obtain ⟨out, data⟩ := out
      cases out with
      | error => rfl
      | ok result =>
        by_cases hresult : result.errorCode = .kSuccess
        · simp [hresult, erase_execute]
        · simp [hresult]
    · simp [hresult]

/-- The permission check and step 1.

**Proof sketch.** As for `erase_validate`, with the data that the conversion leaves. -/
lemma erase_convert (context : Context) (request : Request) (response : Response) :
    (handler.journaled.convert context request response).erase =
      handler.convert context request response := by
  unfold convert
  rw [Journaled.erase_bind]
  refine bind_congr fun out => ?_
  cases out with
  | error => rfl
  | ok result =>
    by_cases hresult : result.errorCode = .kSuccess
    · simp only [hresult, ne_eq, not_true_eq_false, if_false, Journaled.erase_bind]
      refine bind_congr fun out => ?_
      cases out with
      | error => rfl
      | ok result =>
        by_cases hresult : result.errorCode = .kSuccess
        · cases hdata : result.data with
          | none => simp [hresult, hdata]
          | some data => simp [hresult, hdata, erase_validate]
        · simp [hresult]
    · simp [hresult]

/-- The pipeline with a journal does what the pipeline does.

**Proof sketch.** By whether the three pointers are set. -/
lemma erase_run (context : Option Context) (request : Option Request)
    (response : Option Response) :
    (handler.journaled.run context request response).erase =
      handler.run context request response := by
  unfold run
  cases context with
  | none => rfl
  | some context =>
    cases request with
    | none => rfl
    | some request =>
      cases response with
      | none => rfl
      | some response =>
        simp only [Journaled.erase_bind, erase_convert]
        rfl

end Erase

end GrpcHandlerInterface

/-! ## The rollbacks of a journal -/

/-- Any other entry in front leaves the number of rollbacks alone. -/
lemma rollbacks_cons {entry : Entry} (h : entry.hook ≠ .rollback) (journal : List Entry) :
    rollbacks (entry :: journal) = rollbacks journal :=
  List.countP_cons_of_neg (by simpa using h)

/-- Rollbacks that hold in a journal hold in the rest of it. -/
lemma RollbacksHold.tail {entry : Entry} {journal : List Entry}
    (h : RollbacksHold (entry :: journal)) : RollbacksHold journal := by
  rintro pre hook post rfl
  exact h (entry :: pre) hook post rfl

/-- A result and a journal in which the rollbacks are as they should be: none on success, and one
on failure, unless the notification threw. -/
structure Disciplined (result : Result Unit) (journal : List Entry) : Prop where
  success : result.errorCode = .kSuccess → rollbacks journal = 0
  failure : RollbacksHold journal → result.errorCode ≠ .kSuccess →
    rollbacks journal = if NotifyThrew journal then 0 else 1

/-- Another entry in front. -/
lemma Disciplined.cons {result : Result Unit} {journal : List Entry}
    (h : Disciplined result journal) {entry : Entry} (hrollback : entry.hook ≠ .rollback)
    (hnotify : entry ≠ ⟨.notifyService, .threw⟩) : Disciplined result (entry :: journal) := by
  have hthrew : NotifyThrew (entry :: journal) ↔ NotifyThrew journal := by
    unfold NotifyThrew
    rw [List.mem_cons, or_iff_right hnotify.symm]
  refine ⟨fun hsuccess => ?_, fun hhold hfailure => ?_⟩
  · rw [rollbacks_cons hrollback, h.success hsuccess]
  · rw [rollbacks_cons hrollback, h.failure hhold.tail hfailure]
    simp only [hthrew]

/-- A result and a journal in which the business was entered and the rollbacks are as they should
be, or it was not entered and there is none. -/
def Proper (result : Result Unit) (journal : List Entry) : Prop :=
  Entered journal ∧ Disciplined result journal ∨ ¬Entered journal ∧ rollbacks journal = 0

/-- The hooks before the business. -/
def earlyHooks : List Hook :=
  [.checkPermission, .convertToServerData, .validateParams, .checkPreconditions]

/-- Another entry in front, for a hook before the business. -/
lemma Proper.cons {result : Result Unit} {journal : List Entry} (h : Proper result journal)
    {hook : Hook} (hearly : hook ∈ earlyHooks) (outcome : Outcome) :
    Proper result (⟨hook, outcome⟩ :: journal) := by
  have ⟨hrollback, hnotify, hbusiness⟩ :
      hook ≠ .rollback ∧ hook ≠ .notifyService ∧ hook ≠ .executeBusiness := by
    refine ⟨?_, ?_, ?_⟩ <;> rintro rfl <;> exact absurd hearly (by decide)
  have hentered : Entered (⟨hook, outcome⟩ :: journal) ↔ Entered journal := by
    simp [Entered, hbusiness]
  have hnotify' : (⟨hook, outcome⟩ : Entry) ≠ ⟨.notifyService, .threw⟩ :=
    fun h => hnotify (Entry.mk.inj h).1
  unfold Proper
  rw [hentered, rollbacks_cons hrollback]
  exact h.imp_left fun hrest => ⟨hrest.1, hrest.2.cons hrollback hnotify'⟩

/-- The pipeline ends before the business. -/
lemma proper_nil (result : Result Unit) : Proper result [] :=
  .inr ⟨by simp [Entered], rfl⟩

namespace GrpcHandlerInterface

variable {σ Context Request Response ServerData : Type}
variable (handler : GrpcHandlerInterface (StateM σ) Context Request Response ServerData)

/-- The `catch` clause makes one entry. -/
lemma yields_rollbackOnException (data : ServerData) :
    (handler.journaled.rollbackOnException data).Yields fun result journal =>
      result = exceptionResult ∧ ∃ outcome, journal = [⟨.rollback, outcome⟩] := by
  rw [rollbackOnException, journaled_rollback]
  refine Journaled.Yields.note_bind fun out => .pure ?_
  exact ⟨rfl, _, rfl⟩

/-- A failure rolls back once, or twice if the rollback throws. -/
lemma yields_rollbackAndReturn (result : Result Unit) (data : ServerData) :
    (handler.journaled.rollbackAndReturn result data).Yields fun out journal =>
      out = result ∧ journal = [⟨.rollback, .succeeded⟩] ∨
      out = exceptionResult ∧ ∃ outcome, journal = [⟨.rollback, .threw⟩, ⟨.rollback, outcome⟩] := by
  rw [rollbackAndReturn, journaled_rollback]
  refine Journaled.Yields.note_bind fun out => ?_
  obtain ⟨out, data⟩ := out
  cases out with
  | ok => exact .pure (.inl ⟨rfl, rfl⟩)
  | error =>
    refine (handler.yields_rollbackOnException data).mono fun result journal h => ?_
    obtain ⟨rfl, outcome, rfl⟩ := h
    exact .inr ⟨rfl, outcome, rfl⟩

/-- The end of a hook that threw, the notification apart. -/
lemma disciplined_threw {hook : Hook} (hrollback : hook ≠ .rollback)
    (hnotify : hook ≠ .notifyService) (data : ServerData) (response : Response) :
    (do return (← handler.journaled.rollbackOnException data, response) :
        Journaled Entry σ (Result Unit × Response)).Yields fun out journal =>
      Disciplined out.1 (⟨hook, .threw⟩ :: journal) := by
  refine (handler.yields_rollbackOnException data).bind fun result journal h => .pure ?_
  obtain ⟨rfl, outcome, rfl⟩ := h
  have hthrew : ¬NotifyThrew [⟨.rollback, outcome⟩] := by simp [NotifyThrew]
  have hone : Disciplined exceptionResult [⟨.rollback, outcome⟩] :=
    ⟨nofun, fun _ _ => by rw [if_neg hthrew]; rfl⟩
  exact hone.cons hrollback (by simpa using hnotify)

/-- The end of a hook that returned an error code, the notification apart. -/
lemma disciplined_failed {hook : Hook} (hrollback : hook ≠ .rollback) {result : Result Unit}
    (hresult : result.errorCode ≠ .kSuccess) (data : ServerData) (response : Response) :
    (do return (← handler.journaled.rollbackAndReturn result data, response) :
        Journaled Entry σ (Result Unit × Response)).Yields fun out journal =>
      Disciplined out.1 (⟨hook, .failed⟩ :: journal) := by
  refine (handler.yields_rollbackAndReturn result data).bind fun result journal h => .pure ?_
  rcases h with ⟨rfl, rfl⟩ | ⟨rfl, outcome, rfl⟩
  · have hone : Disciplined result [⟨.rollback, .succeeded⟩] :=
      ⟨fun hsuccess => absurd hsuccess hresult, fun _ _ => rfl⟩
    exact hone.cons hrollback (by simp)
  · -- the rollback threw: such runs are left out
    exact ⟨nofun, fun hhold _ => absurd rfl (hhold [] hook [⟨.rollback, outcome⟩])⟩

/-- From step 7 on.

**Proof sketch.** The journal ends here, or the business is rolled back. -/
lemma disciplined_build (data : ServerData) (response : Response) :
    (handler.journaled.build data response).Yields fun out journal =>
      Disciplined out.1 journal := by
  rw [build, journaled_buildResponse]
  refine Journaled.Yields.note_bind fun out => ?_
  obtain ⟨out, data, response⟩ := out
  cases out with
  | error => exact handler.disciplined_threw (by decide) (by decide) data response
  | ok result =>
    by_cases hresult : result.errorCode = .kSuccess
    · simp only [hresult, ne_eq, not_true_eq_false, if_false, outcomeOf, if_true]
      exact .pure ⟨fun _ => rfl, fun _ hfailure => absurd rfl hfailure⟩
    · simp only [hresult, ne_eq, not_false_eq_true, if_true, outcomeOf, if_false]
      exact handler.disciplined_failed (by decide) hresult data response

/-- From step 6 on. A notification that throws is not rolled back. -/
lemma disciplined_notify (data : ServerData) (response : Response) :
    (handler.journaled.notify data response).Yields fun out journal =>
      Disciplined out.1 journal := by
  rw [notify, journaled_notifyService]
  refine Journaled.Yields.note_bind fun out => ?_
  obtain ⟨out, data⟩ := out
  cases out with
  | error => exact .pure ⟨fun _ => rfl, fun _ _ => rfl⟩
  | ok result =>
    refine (handler.disciplined_build data response).mono fun out journal h => ?_
    refine h.cons (by simp) ?_
    simp only [outcomeOf]
    split <;> simp

/-- From step 5 on.

**Proof sketch.** If the verification succeeds, the pipeline goes on to the notification. Otherwise
the business is rolled back. -/
lemma disciplined_verify (data : ServerData) (response : Response) :
    (handler.journaled.verify data response).Yields fun out journal =>
      Disciplined out.1 journal := by
  rw [verify, journaled_verifyExecutionEffective]
  refine Journaled.Yields.note_bind fun out => ?_
  obtain ⟨out, data⟩ := out
  cases out with
  | error => exact handler.disciplined_threw (by decide) (by decide) data response
  | ok result =>
    by_cases hresult : result.errorCode = .kSuccess
    · simp only [hresult, ne_eq, not_true_eq_false, if_false, outcomeOf, if_true]
      exact (handler.disciplined_notify data response).mono
        fun out journal h => h.cons (by simp) (by simp)
    · simp only [hresult, ne_eq, not_false_eq_true, if_true, outcomeOf, if_false]
      exact handler.disciplined_failed (by decide) hresult data response

/-- From step 4 on: the business is entered.

**Proof sketch.** The business is entered whatever it answers. If it succeeds, the pipeline goes on
to the verification, and otherwise it is rolled back. -/
lemma disciplined_execute (data : ServerData) (response : Response) :
    (handler.journaled.execute data response).Yields fun out journal =>
      Entered journal ∧ Disciplined out.1 journal := by
  rw [execute, journaled_executeBusiness]
  refine Journaled.Yields.note_bind fun out => ?_
  have hentered : ∀ (outcome : Outcome) (journal : List Entry),
      Entered (⟨.executeBusiness, outcome⟩ :: journal) :=
    fun outcome journal => ⟨_, List.mem_cons_self .., rfl⟩
  obtain ⟨out, data⟩ := out
  cases out with
  | error =>
    exact (handler.disciplined_threw (by decide) (by decide) data response).mono
      fun out journal h => ⟨hentered _ _, h⟩
  | ok result =>
    by_cases hresult : result.errorCode = .kSuccess
    · simp only [hresult, ne_eq, not_true_eq_false, if_false, outcomeOf, if_true]
      exact (handler.disciplined_verify data response).mono
        fun out journal h => ⟨hentered _ _, h.cons (by simp) (by simp)⟩
    · simp only [hresult, ne_eq, not_false_eq_true, if_true, outcomeOf, if_false]
      exact (handler.disciplined_failed (by decide) hresult data response).mono
        fun out journal h => ⟨hentered _ _, h⟩

/-- From step 2 on.

**Proof sketch.** If one of the two hooks fails, the business has not been entered. Otherwise the
rest of the pipeline is disciplined, and these two entries are no part of its business. -/
lemma proper_validate (data : ServerData) (response : Response) :
    (handler.journaled.validate data response).Yields fun out journal => Proper out.1 journal := by
  rw [validate, journaled_validateParams]
  refine Journaled.Yields.note_bind fun out => ?_
  obtain ⟨out, data⟩ := out
  cases out with
  | error => exact .pure ((proper_nil _).cons (by decide) _)
  | ok result =>
    by_cases hresult : result.errorCode = .kSuccess
    · simp only [hresult, ne_eq, not_true_eq_false, if_false]
      rw [journaled_checkPreconditions]
      refine Journaled.Yields.note_bind fun out => ?_
      obtain ⟨out, data⟩ := out
      cases out with
      | error => exact .pure (((proper_nil _).cons (by decide) _).cons (by decide) _)
      | ok result =>
        by_cases hresult : result.errorCode = .kSuccess
        · simp only [hresult, not_true_eq_false, if_false]
          refine (handler.disciplined_execute data response).mono fun out journal h => ?_
          have hrest : Proper out.1 journal := .inl h
          exact (hrest.cons (by decide) _).cons (by decide) _
        · simp only [hresult, not_false_eq_true, if_true]
          exact .pure (((proper_nil _).cons (by decide) _).cons (by decide) _)
    · simp only [hresult, ne_eq, not_false_eq_true, if_true]
      exact .pure ((proper_nil _).cons (by decide) _)

/-- From the permission check on.

**Proof sketch.** As for `proper_validate`, with the two hooks before it. -/
lemma proper_convert (context : Context) (request : Request) (response : Response) :
    (handler.journaled.convert context request response).Yields fun out journal =>
      Proper out.1 journal := by
  rw [convert, journaled_checkPermission]
  refine Journaled.Yields.note_bind fun out => ?_
  cases out with
  | error => exact .pure ((proper_nil _).cons (by decide) _)
  | ok result =>
    by_cases hresult : result.errorCode = .kSuccess
    · simp only [hresult, ne_eq, not_true_eq_false, if_false]
      rw [journaled_convertToServerData]
      refine Journaled.Yields.note_bind fun out => ?_
      cases out with
      | error => exact .pure (((proper_nil _).cons (by decide) _).cons (by decide) _)
      | ok result =>
        by_cases hresult : result.errorCode = .kSuccess
        · cases hdata : result.data with
          | none =>
            simp only [hresult, not_true_eq_false, if_false, hdata]
            exact .pure (((proper_nil _).cons (by decide) _).cons (by decide) _)
          | some data =>
            simp only [hresult, not_true_eq_false, if_false, hdata]
            exact (handler.proper_validate data response).mono fun out journal hrest =>
              (hrest.cons (by decide) _).cons (by decide) _
        · simp only [hresult, not_false_eq_true, if_true]
          exact .pure (((proper_nil _).cons (by decide) _).cons (by decide) _)
    · simp only [hresult, ne_eq, not_false_eq_true, if_true]
      exact .pure ((proper_nil _).cons (by decide) _)

/-- The whole pipeline.

**Proof sketch.** A null pointer runs no hook. -/
lemma proper_run (context : Option Context) (request : Option Request)
    (response : Option Response) :
    (handler.journaled.run context request response).Yields fun out journal =>
      Proper out.1 journal := by
  unfold run
  cases context with
  | none => exact .pure (proper_nil _)
  | some context =>
    cases request with
    | none => exact .pure (proper_nil _)
    | some request =>
      cases response with
      | none => exact .pure (proper_nil _)
      | some response =>
        refine (handler.proper_convert context request response).bind fun out journal h => ?_
        exact .pure (by rwa [List.append_nil])

end GrpcHandlerInterface

/-- **When the pipeline rolls back.** For any handler, over any state, whose hooks may succeed,
return an error code or throw, a run of the pipeline, kept in a journal that changes nothing,
calls `Rollback` not at all if it did not enter `ExecuteBusiness` or reports success. In a run in
which no `Rollback` that was called after an error code throws, `Rollback` is called at most once,
and if the run entered `ExecuteBusiness` and reports failure, exactly once, unless
`NotifyService` threw: then not at all.

**Proof sketch.** The pipeline from its last step to its first: each step adds the entry of its
hook to the journal of the steps after it, or ends the run with the entries of a rollback. -/
theorem rollback_discipline {σ Context Request Response ServerData : Type}
    (handler : GrpcHandlerInterface (StateM σ) Context Request Response ServerData)
    (context : Option Context) (request : Option Request) (response : Option Response) (s : σ) :
    let run := handler.journaled.run context request response s
    let result : Result Unit := run.1.1.1
    let journal : List Entry := run.2
    (handler.run context request response).run s = run.1 ∧
    (¬Entered journal ∨ result.errorCode = .kSuccess → rollbacks journal = 0) ∧
    (RollbacksHold journal → rollbacks journal ≤ 1 ∧
      (Entered journal → result.errorCode ≠ .kSuccess →
        rollbacks journal = if NotifyThrew journal then 0 else 1)) := by
  intro run result journal
  have herase : run.1 = (handler.run context request response).run s :=
    congrFun (handler.erase_run context request response) s
  have hproper : Proper result journal := handler.proper_run context request response s
  refine ⟨herase.symm, ?_, fun hhold => ?_⟩
  · rintro (hentered | hsuccess)
    · rcases hproper with ⟨hentered', -⟩ | ⟨-, hnone⟩
      · exact absurd hentered' hentered
      · exact hnone
    · rcases hproper with ⟨-, hdisciplined⟩ | ⟨-, hnone⟩
      · exact hdisciplined.success hsuccess
      · exact hnone
  · rcases hproper with ⟨-, hdisciplined⟩ | ⟨hentered, hnone⟩
    · refine ⟨?_, fun _ hfailure => hdisciplined.failure hhold hfailure⟩
      by_cases hresult : result.errorCode = .kSuccess
      · rw [hdisciplined.success hresult]
        exact Nat.zero_le 1
      · rw [hdisciplined.failure hhold hresult]
        split <;> omega
    · exact ⟨by omega, fun hentered' => absurd hentered' hentered⟩

namespace Sample

open GrpcHandlerInterface

/-- A handler whose business adds one to a counter, which the rollback takes back. -/
def counting (verify notify : Except Exception (Result Unit)) :
    GrpcHandlerInterface (StateM ℕ) Unit Unit Unit Unit where
  checkPermission _ _ := return .ok (.void .kSuccess "success")
  convertToServerData _ _ := return .ok ⟨.kSuccess, "", some ()⟩
  validateParams data := return (.ok (.void .kSuccess ""), data)
  checkPreconditions data := return (.ok (.void .kSuccess ""), data)
  executeBusiness data := do
    modify (· + 1)
    return (.ok (.void .kSuccess ""), data)
  verifyExecutionEffective data := return (verify, data)
  rollback data := do
    modify (· - 1)
    return (.ok (), data)
  notifyService data := return (notify, data)
  buildResponse data response := return (.ok (.void .kSuccess ""), data, response)

end Sample

/-- The business did not take effect: it is rolled back once. -/
theorem rollback_discipline_sample :
    let handler := Sample.counting (.ok (.void .kNotFound "")) (.ok (.void .kSuccess ""))
    (handler.run (some ()) (some ()) (some ())).run 0 = ((.void .kNotFound "", some ()), 0) ∧
      rollbacks (handler.journaled.run (some ()) (some ()) (some ()) 0).2 = 1 := by
  intro handler
  obtain ⟨hrun, -, hhold⟩ := rollback_discipline handler (some ()) (some ()) (some ()) 0
  have hholds : RollbacksHold (handler.journaled.run (some ()) (some ()) (some ()) 0).2 := by
    intro pre hook post h
    have hmem : (⟨.rollback, .threw⟩ : Entry) ∈
        (handler.journaled.run (some ()) (some ()) (some ()) 0).2 := by
      rw [h]
      simp
    exact absurd hmem (by decide)
  have hone := (hhold hholds).2 (by decide) (by decide)
  exact ⟨hrun, hone.trans (by decide)⟩

/-- A notification that throws makes the run fail after the business was entered, and nothing is
rolled back. -/
theorem notify_exception_not_rolled_back :
    ¬∀ (handler : GrpcHandlerInterface (StateM ℕ) Unit Unit Unit Unit) (s : ℕ),
      Entered (handler.journaled.run (some ()) (some ()) (some ()) s).2 →
      (handler.journaled.run (some ()) (some ()) (some ()) s).1.1.1.errorCode ≠ .kSuccess →
      rollbacks (handler.journaled.run (some ()) (some ()) (some ()) s).2 = 1 := by
  intro h
  have hone := h (Sample.counting (.ok (.void .kSuccess "")) (.error ⟨"log service is down"⟩)) 0
    (by decide) (by decide)
  exact absurd hone (by decide)

end Grpc
