import QTradeService.AccountService.Business
import QTradeService.AccountService.Programs

set_option relaxedAutoImplicit false
set_option autoImplicit false

/-!
# Calls are steps

From the business of the handlers through the pipeline to the calls of the service.

## Main results

* `AccountService.accountStep_serve` — a call is an `AccountStep`, and leaves no transaction open.
-/

namespace AccountService

open Sql Dao Database Grpc

section

variable {σ : Type} {db : Program.Handler Call.Answer σ} {content : σ → Session accountSchema}
  {faults : Prop} {counting : Counting} {store : Store accountSchema}

/-! ## Steps and what the business answers -/

/-- The step of a call and the session after it. -/
def Steps (faults : Prop) (counting : Counting) (store : Store accountSchema) (call : AccountCall)
    (answer : Status × AccountResponse) (session : Session accountSchema) : Prop :=
  ∃ store', session = ⟨store', none⟩ ∧ AccountStep faults counting store call answer store'

/-- What the business of a call answers: server data whose response makes the call a step, or a
refusal. -/
inductive Answered {ServerData : Type} (faults : Prop) (counting : Counting)
    (store : Store accountSchema) (call : AccountCall) (respond : ServerData → AccountResponse) :
    Result Unit × ServerData → Session accountSchema → Prop
  | done {data : ServerData} {store' : Store accountSchema}
      (h : AccountStep faults counting store call (.OK, respond data) store') :
      Answered faults counting store call respond (.void .kSuccess "success", data) ⟨store', none⟩
  | failed {code : ErrorCode} {message : String} {data : ServerData} (hcode : code ≠ .kSuccess)
      (h : Refused faults counting store call code) :
      Answered faults counting store call respond (.void code message, data) ⟨store, none⟩

/-- A refusal is a step. -/
lemma steps_of_refused {call : AccountCall} (code : ErrorCode) (hcode : code ≠ .kSuccess)
    (h : Refused faults counting store call code) {session : Session accountSchema}
    (hsession : session = ⟨store, none⟩) (response : AccountResponse) :
    Steps faults counting store call (toGrpcStatus code, response) session :=
  ⟨store, hsession, .refused response hcode h⟩

variable (hdb : Conforms faults counting db content)

/-! ## The pipeline -/

/-- What the business answers makes the call a step. -/
lemma respond_steps {Response ServerData : Type} {call : AccountCall}
    {wrap : Response → AccountResponse} {response : Response}
    {buildResponse : ServerData → Response → Response}
    {business : Db (Result Unit × ServerData)} {s : σ}
    (hbusiness : business.Ensures db s fun answer s' =>
      Answered faults counting store call (fun data => wrap (buildResponse data response)) answer
        (content s')) :
    (respond wrap response buildResponse <$> business).Ensures db s fun answer s' =>
      Steps faults counting store call answer (content s') := by
  rw [map_eq_pure_bind]
  refine hbusiness.bind fun answer s' hanswer => .pure ?_
  generalize content s' = session at hanswer ⊢
  cases hanswer with
  | done hstep => exact ⟨_, rfl, hstep⟩
  | failed hcode hrefused =>
    rw [respond_of_failed hcode]
    exact steps_of_refused _ hcode hrefused rfl _

include hdb

/-- A call is a step if it is one once the database is ready. -/
lemma whenReady_steps {call : AccountCall} (response : AccountResponse)
    {rest : Db (Status × AccountResponse)} {s : σ} (hs : content s = ⟨store, none⟩)
    (hrest : ∀ s', content s' = ⟨store, none⟩ → rest.Ensures db s' fun answer s'' =>
      Steps faults counting store call answer (content s'')) :
    (whenReady response rest).Ensures db s fun answer s' =>
      Steps faults counting store call answer (content s') := by
  refine checked_ensures (fun (answer : Status × AccountResponse) session =>
    Steps faults counting store call answer session) (hdb.isReady s) rfl
    (fun h => steps_of_refused .kSystemError (by decide) (.faulty h) hs _) ?_
  intro s' hs'
  exact hrest s' (hs'.trans hs)

/-! ## The calls -/

/-- The business of `AddAccount`. -/
lemma addAccount_steps {account : TradingAccount} {s : σ} (hs : content s = ⟨store, none⟩)
    (hvalid : (AccountCall.addAccount ⟨some account⟩).Valid) :
    (AccountCall.addAccount ⟨some account⟩).business.Ensures db s fun answer s' =>
      Steps faults counting store (.addAccount ⟨some account⟩) answer (content s') := by
  apply respond_steps
  unfold AddAccountHandler.executeBusiness
  refine (withTransaction_ensures hdb .faulty
    (fun s' => addRows_ensures hdb hvalid) hs).bind fun result s' houtcome => .pure ?_
  generalize content s' = session at houtcome ⊢
  cases houtcome with
  | done hadded =>
    obtain ⟨store₁, haccount, hcredential, hfresh⟩ := hadded
    exact .done (.added hvalid hfresh haccount hcredential)
  | failed hcode hrefused => exact .failed hcode hrefused

/-- The business of `UpdateAccount`. -/
lemma updateAccount_steps {account : TradingAccount} {s : σ} (hs : content s = ⟨store, none⟩)
    (hvalid : (AccountCall.updateAccount ⟨some account⟩).Valid) :
    (AccountCall.updateAccount ⟨some account⟩).business.Ensures db s fun answer s' =>
      Steps faults counting store (.updateAccount ⟨some account⟩) answer (content s') := by
  apply respond_steps
  unfold UpdateAccountHandler.executeBusiness
  refine (withTransaction_ensures hdb .faulty
    (fun s' => updateRows_ensures hdb hvalid) hs).bind fun result s' houtcome => .pure ?_
  generalize content s' = session at houtcome ⊢
  cases houtcome with
  | done hupdated =>
    obtain ⟨store₁, haccount, haffects, hcredential⟩ := hupdated
    exact .done (.updated hvalid haccount haffects hcredential)
  | failed hcode hrefused => exact .failed hcode hrefused

/-- The business of `GetAccount`. -/
lemma getAccount_steps {accountId : String} {s : σ} (hs : content s = ⟨store, none⟩)
    (hvalid : (AccountCall.getAccount ⟨accountId⟩).Valid) :
    (AccountCall.getAccount ⟨accountId⟩).business.Ensures db s fun answer s' =>
      Steps faults counting store (.getAccount ⟨accountId⟩) answer (content s') := by
  apply respond_steps
  apply (getAccount_ensures hdb hvalid _ hs).mono
  rintro answer s' ⟨houtcome, hs'⟩
  rw [hs']
  cases houtcome with
  | done hdata =>
    obtain ⟨row, hrow, rfl⟩ := hdata
    exact .done (.got hvalid hrow)
  | failed hcode hrefused => exact .failed hcode hrefused

/-- The business of `ListAccounts`. -/
lemma listAccounts_steps (request : ListAccountsRequest) {s : σ}
    (hs : content s = ⟨store, none⟩) :
    (AccountCall.listAccounts request).business.Ensures db s fun answer s' =>
      Steps faults counting store (.listAccounts request) answer (content s') := by
  apply respond_steps
  apply (listAccounts_ensures hdb hs).mono
  rintro answer s' ⟨houtcome, hs'⟩
  rw [hs']
  cases houtcome with
  | done hdata =>
    obtain ⟨rows, hrows, rfl⟩ := hdata
    exact .done (.listed hrows)
  | failed hcode hrefused => exact .failed hcode hrefused

/-- The business of `GetCredential`. -/
lemma getCredential_steps {accountId engineId : String} {s : σ}
    (hs : content s = ⟨store, none⟩)
    (hvalid : (AccountCall.getCredential ⟨accountId, engineId⟩).Valid) :
    (AccountCall.getCredential ⟨accountId, engineId⟩).business.Ensures db s fun answer s' =>
      Steps faults counting store (.getCredential ⟨accountId, engineId⟩) answer (content s') := by
  apply respond_steps
  apply (getCredential_ensures hdb hvalid.2 _ hs).mono
  rintro answer s' ⟨houtcome, hs'⟩
  rw [hs']
  cases houtcome with
  | done hdata =>
    obtain ⟨row, hrow, hstatus, credential, hcredential, password, hpassword, rfl⟩ := hdata
    exact .done (.gave hvalid hrow hstatus hcredential hpassword)
  | failed hcode hrefused => exact .failed hcode hrefused

/-- The business of a valid call is a step.

**Proof sketch.** By cases on the call; a valid one carries the account that its business needs. -/
lemma business_steps {call : AccountCall} (hvalid : call.Valid) {s : σ}
    (hs : content s = ⟨store, none⟩) :
    call.business.Ensures db s fun answer s' =>
      Steps faults counting store call answer (content s') := by
  cases call with
  | addAccount request =>
    obtain ⟨account⟩ := request
    cases account with
    | none => exact hvalid.elim
    | some account => exact addAccount_steps hdb hs hvalid
  | getAccount request => exact getAccount_steps hdb hs hvalid
  | listAccounts request => exact listAccounts_steps hdb request hs
  | updateAccount request =>
    obtain ⟨account⟩ := request
    cases account with
    | none => exact hvalid.elim
    | some account => exact updateAccount_steps hdb hs hvalid
  | getCredential request => exact getCredential_steps hdb hs hvalid

/-- Every call is a step, and leaves no transaction open. -/
theorem accountStep_serve (call : AccountCall) {s : σ} (hs : content s = ⟨store, none⟩) :
    Steps faults counting store call ((service db).step call s).1
      (content ((service db).step call s).2) := by
  show (serve call).Ensures db s fun answer s' =>
    Steps faults counting store call answer (content s')
  by_cases hvalid : call.Valid
  · rw [serve_of_valid hvalid]
    exact whenReady_steps hdb call.blank hs fun s' hs' => business_steps hdb hvalid hs'
  · rw [serve_of_invalid hvalid]
    refine whenReady_steps hdb call.blank hs fun s' hs' => .pure ?_
    exact steps_of_refused .kInternalError (by decide) (.invalid hvalid) hs' _

end

end AccountService
