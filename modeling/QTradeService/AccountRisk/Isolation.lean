import QTradeService.AccountRisk.Service

set_option relaxedAutoImplicit false
set_option autoImplicit false

/-!
# Isolation of the accounts

All accounts share one map of ledgers, and one lock. Still, the requests that name one account
can be left out of a run without any client of another account noticing, even where both use the
same order identifiers.

## Main results

* `AccountRisk.account_isolation` — dropping the calls for other accounts changes nothing.
-/

namespace AccountRisk

variable {α : Type} [Zero α] [Add α] [Sub α] [Mul α] [NatCast α] [LT α] [DecidableLT α]

/-- **Account isolation.** The answers to the calls that name the account `a`, and the ledger of
`a` in the end, are the same as in the run without the calls that name other accounts.

**Proof sketch.** The ledger of `a` is a view of the map of ledgers. A call for another account
leaves it alone (`lookup_serve_of_ne`), and a call for `a` reads and writes nothing else
(`serve_congr`). -/
theorem account_isolation (a : String) (calls : List (Call α)) :
    ((service.trace calls ∅).filter fun event => event.1.account = a) =
      service.trace (calls.filter fun call => call.account = a) ∅ ∧
    (service.final calls ∅).lookup a =
      (service.final (calls.filter fun call => call.account = a) ∅).lookup a := by
  refine Machine.run_filter (m := service) (fun s : Ledgers α => s.lookup a)
    (fun call => decide (call.account = a)) (fun call s hcall => ?_)
    (fun call s t hcall hview => ?_) calls rfl
  · exact lookup_serve_of_ne (of_decide_eq_false hcall) s
  · obtain rfl := of_decide_eq_true hcall
    exact serve_congr hview

end AccountRisk
