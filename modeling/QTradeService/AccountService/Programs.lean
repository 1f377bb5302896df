import QTradeService.AccountService.Steps
import QTradeService.AccountService.Service

set_option relaxedAutoImplicit false
set_option autoImplicit false

/-!
# The calls as programs

What is left of the pipeline of a call: ask whether the database is ready, and then run the
business of the handler or refuse the request.

## Main definitions

* `AccountService.whenReady`, `AccountService.AccountCall.business`.

## Main results

* `AccountService.serve_of_valid`, `AccountService.serve_of_invalid`.
-/

namespace AccountService

open Sql Dao Database Grpc

/-! ## Programs -/

/-- The response of a call before its handler fills it. -/
def AccountCall.blank : AccountCall → AccountResponse
  | .addAccount _ => .addAccount {}
  | .getAccount _ => .getAccount ⟨none⟩
  | .listAccounts _ => .listAccounts ⟨[]⟩
  | .updateAccount _ => .updateAccount {}
  | .getCredential _ => .getCredential ⟨none⟩

/-- Go on if the database is ready. -/
def whenReady (response : AccountResponse) (rest : Db (Status × AccountResponse)) :
    Db (Status × AccountResponse) := do
  if !(← databaseReady) then
    return (toGrpcStatus .kSystemError, response)
  rest

/-- The answer that is made of what the business of a handler returns. -/
def respond {Response ServerData : Type} (wrap : Response → AccountResponse) (response : Response)
    (buildResponse : ServerData → Response → Response) (answer : Result Unit × ServerData) :
    Status × AccountResponse :=
  if answer.1.errorCode ≠ .kSuccess then (toGrpcStatus answer.1.errorCode, wrap response)
  else (.OK, wrap (buildResponse answer.2 response))

/-- A failure is answered with its code. -/
lemma respond_of_failed {Response ServerData : Type} {wrap : Response → AccountResponse}
    {response : Response} {buildResponse : ServerData → Response → Response} {code : ErrorCode}
    (hcode : code ≠ .kSuccess) (message : String) (data : ServerData) :
    respond wrap response buildResponse (.void code message, data) =
      (toGrpcStatus code, wrap response) :=
  if_pos hcode

/-- The business of a call and its answer. -/
def AccountCall.business : AccountCall → Db (Status × AccountResponse)
  | .addAccount ⟨none⟩ => return (toGrpcStatus .kInternalError, .addAccount {})
  | .addAccount ⟨some account⟩ =>
    respond .addAccount {} AddAccountHandler.buildResponse <$>
      AddAccountHandler.executeBusiness ⟨account.password, toTradingAccountRecord account⟩
  | .getAccount ⟨accountId⟩ =>
    respond .getAccount ⟨none⟩ GetAccountHandler.buildResponse <$>
      GetAccountHandler.executeBusiness ⟨accountId, {}⟩
  | .listAccounts _ =>
    respond .listAccounts ⟨[]⟩ ListAccountsHandler.buildResponse <$>
      ListAccountsHandler.executeBusiness ⟨[]⟩
  | .updateAccount ⟨none⟩ => return (toGrpcStatus .kInternalError, .updateAccount {})
  | .updateAccount ⟨some account⟩ =>
    respond .updateAccount {} UpdateAccountHandler.buildResponse <$>
      UpdateAccountHandler.executeBusiness
        ⟨account.password ≠ "", account.password, toTradingAccountRecord account⟩
  | .getCredential ⟨accountId, engineId⟩ =>
    respond .getCredential ⟨none⟩ GetCredentialHandler.buildResponse <$>
      GetCredentialHandler.executeBusiness ⟨accountId, engineId, "", {}⟩

/-! ## Pipelines -/

section

variable {Request Response ServerData : Type} {convertToServerData : Request → Result ServerData}
  {validateParams : ServerData → Result Unit}
  {executeBusiness : ServerData → Db (Result Unit × ServerData)}
  {buildResponse : ServerData → Response → Response} {request : Request} {response : Response}
  {message message' : String} (wrap : Response → AccountResponse)

/-- A call of a plain handler, with its pipeline. -/
lemma runHandler_plain {pipeline : Db (Result Unit × Response)}
    (h : GrpcHandlerInterface.plainConvert convertToServerData validateParams executeBusiness
      buildResponse request response = pipeline) :
    (do
      let (status, response) ← runHandler
        (.plain convertToServerData validateParams executeBusiness buildResponse) request response
      return (status, wrap response)) =
    whenReady (wrap response)
      ((fun answer => (toGrpcStatus answer.1.errorCode, wrap answer.2)) <$> pipeline) := by
  refine congrArg (Program.call Call.isReady) (funext fun ready => ?_)
  cases ready with
  | false => rfl
  | true =>
    show ((GrpcHandlerInterface.run _ _ _ _ : Db _) >>= _) >>= _ = _
    rw [GrpcHandlerInterface.run_plain, h]
    simp only [bind_assoc, pure_bind]
    rfl

/-- A request that does not convert is refused. -/
lemma runHandler_of_unconverted
    (hconvert : convertToServerData request = .void .kInternalError message) :
    (do
      let (status, response) ← runHandler
        (.plain convertToServerData validateParams executeBusiness buildResponse) request response
      return (status, wrap response)) =
    whenReady (wrap response) (return (toGrpcStatus .kInternalError, wrap response)) :=
  runHandler_plain wrap (GrpcHandlerInterface.plainConvert_of_unconverted hconvert (by decide) _)

/-- A request with invalid parameters is refused. -/
lemma runHandler_of_invalid {data : ServerData}
    (hconvert : convertToServerData request = ⟨.kSuccess, message, some data⟩)
    (hvalidate : validateParams data = .void .kInternalError message') :
    (do
      let (status, response) ← runHandler
        (.plain convertToServerData validateParams executeBusiness buildResponse) request response
      return (status, wrap response)) =
    whenReady (wrap response) (return (toGrpcStatus .kInternalError, wrap response)) := by
  have hpipeline : GrpcHandlerInterface.plainConvert convertToServerData validateParams
      executeBusiness buildResponse request response =
        return (.void .kInternalError message', response) := by
    rw [GrpcHandlerInterface.plainConvert_of_invalid hconvert (by rw [hvalidate]; simp), hvalidate]
  exact runHandler_plain wrap hpipeline

/-- A valid request runs the business.

**Proof sketch.** The conversion and the checks pass, so that what is left is the business and the
answer built from its data. -/
lemma runHandler_of_valid {data : ServerData}
    (hconvert : convertToServerData request = ⟨.kSuccess, message, some data⟩)
    (hvalidate : validateParams data = .void .kSuccess message') :
    (do
      let (status, response) ← runHandler
        (.plain convertToServerData validateParams executeBusiness buildResponse) request response
      return (status, wrap response)) =
    whenReady (wrap response) (respond wrap response buildResponse <$> executeBusiness data) := by
  rw [runHandler_plain wrap
    (GrpcHandlerInterface.plainConvert_of_valid hconvert (by rw [hvalidate]; rfl) _)]
  unfold GrpcHandlerInterface.plainExecute
  rw [map_bind]
  refine congrArg (whenReady (wrap response)) (bind_congr fun answer => ?_)
  obtain ⟨result, data⟩ := answer
  unfold respond
  by_cases hresult : result.errorCode ≠ .kSuccess
  · simp only [Function.comp_apply, if_pos hresult]
    rfl
  · simp only [Function.comp_apply, if_neg hresult]
    rfl

end

/-! ## Calls -/

/-- A call whose request is invalid is refused.

**Proof sketch.** By cases on the call: either it carries no account, which fails the conversion, or
it lacks a field, which fails the checks. -/
theorem serve_of_invalid {call : AccountCall} (h : ¬call.Valid) :
    serve call =
      whenReady call.blank (return (toGrpcStatus .kInternalError, call.blank)) := by
  cases call with
  | addAccount request =>
    obtain ⟨account⟩ := request
    cases account with
    | none => exact runHandler_of_unconverted .addAccount rfl
    | some account =>
      refine runHandler_of_invalid .addAccount rfl (if_pos ?_)
      show (decide (account.accountId = "") || decide (account.password = "")) = true
      rw [Bool.or_eq_true, decide_eq_true_iff, decide_eq_true_iff]
      exact or_iff_not_and_not.mpr h
  | getAccount request =>
    exact runHandler_of_invalid .getAccount rfl (if_pos (not_not.mp h))
  | listAccounts request => exact absurd trivial h
  | updateAccount request =>
    obtain ⟨account⟩ := request
    cases account with
    | none => exact runHandler_of_unconverted .updateAccount rfl
    | some account =>
      have hempty : account.accountId = "" := not_not.mp h
      exact runHandler_of_invalid .updateAccount rfl (if_pos (decide_eq_true hempty))
  | getCredential request =>
    refine runHandler_of_invalid .getCredential rfl (if_pos ?_)
    rw [Bool.or_eq_true, decide_eq_true_iff, decide_eq_true_iff]
    exact or_iff_not_and_not.mpr h

/-- A call whose request is valid runs its business.

**Proof sketch.** As for `serve_of_invalid`, by cases on the call. -/
theorem serve_of_valid {call : AccountCall} (h : call.Valid) :
    serve call = whenReady call.blank call.business := by
  cases call with
  | addAccount request =>
    obtain ⟨account⟩ := request
    cases account with
    | none => exact h.elim
    | some account =>
      refine runHandler_of_valid .addAccount rfl (if_neg ?_)
      show ¬(decide (account.accountId = "") || decide (account.password = "")) = true
      rw [Bool.or_eq_true, decide_eq_true_iff, decide_eq_true_iff]
      exact not_or.mpr h
  | getAccount request =>
    exact runHandler_of_valid .getAccount rfl (if_neg h)
  | listAccounts request => exact runHandler_of_valid .listAccounts rfl rfl
  | updateAccount request =>
    obtain ⟨account⟩ := request
    cases account with
    | none => exact h.elim
    | some account =>
      have hvalid : account.accountId ≠ "" := h
      exact runHandler_of_valid .updateAccount rfl (if_neg fun hempty =>
        hvalid (of_decide_eq_true hempty))
  | getCredential request =>
    refine runHandler_of_valid .getCredential rfl (if_neg ?_)
    rw [Bool.or_eq_true, decide_eq_true_iff, decide_eq_true_iff]
    exact not_or.mpr h

end AccountService
