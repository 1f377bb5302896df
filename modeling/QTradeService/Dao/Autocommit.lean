import QTradeService.Library.Interleaving
import QTradeService.Dao.AccountTables

set_option relaxedAutoImplicit false
set_option autoImplicit false

/-!
# Statements outside a transaction

A connection on which no transaction was begun commits every statement by itself. A statement that
fails there leaves the database as it was.

## Main definitions

* `Dao.OpensOnDemand` — only `BeginTransaction` opens a transaction.
* `Dao.Settled` — a statement outside a transaction.

## Main results

* `Dao.idle_run` — a program that begins no transaction leaves none open.
* `Dao.settled_ensures` — what a write does that begins no transaction.
-/

namespace Dao

open Sql Database

variable {σ : Type} {schema : Schema} {db : Program.Handler Call.Answer σ}
  {content : σ → Session schema}

/-! ## Connections without a transaction -/

/-- Only `BeginTransaction` opens a transaction. -/
def OpensOnDemand (db : Program.Handler Call.Answer σ) (content : σ → Session schema) : Prop :=
  ∀ call s, call ≠ .beginTransaction → (content s).working = none →
    (content (db call s).2).working = none

/-- `reference` opens transactions on demand.

**Proof sketch.** By cases on the statement: without a transaction everything that is executed is
committed. -/
lemma reference_opensOnDemand (schema : Schema) :
    OpensOnDemand (reference schema) (id : Session schema → Session schema) := by
  rintro call ⟨committed, working⟩ hcall (rfl : working = none)
  cases call with
  | beginTransaction => exact absurd rfl hcall
  | isReady | acquire | isConnected | lastError | query | rollbackTransaction => rfl
  | commitTransaction => rfl
  | execute sql =>
    cases hread : read sql with
    | none => simp only [id, reference, hread]
    | some statement =>
      simp only [id, reference, hread]
      cases hexec : (Session.view ⟨committed, none⟩).exec statement with
      | none => cases statement <;> simp only [referenceExecute, hexec]
      | some store => cases statement <;> simp only [referenceExecute, hexec] <;> rfl

/-- Counting changed rows opens no transaction. -/
lemma changing_opensOnDemand (schema : Schema) :
    OpensOnDemand (changing schema) (id : Session schema → Session schema) := by
  intro call s
  cases call <;> exact reference_opensOnDemand schema _ s

/-- Programs that begin no transaction leave none open. -/
lemma idle_run {α : Type} (hopens : OpensOnDemand db content) {p : Db α}
    (hp : p.Only (· ≠ .beginTransaction)) {s : σ} (hs : (content s).working = none) :
    (content (p.run db s).2).working = none := by
  induction p generalizing s with
  | pure a => exact hs
  | call i rest ih => exact ih _ (hp.2 _) (hopens i s hp.1 hs)

/-! ## Statements -/

/-- The result of a write outside a transaction: it is executed, or nothing changes. -/
inductive Settled (faults : Prop) (reported : ℤ → Prop) (store : Store schema)
    (statement : Statement) : Result ℤ → Session schema → Prop
  | executed {store' : Store schema} {affected : ℤ} (hexec : store.exec statement = some store')
      (hreported : reported affected) :
      Settled faults reported store statement ⟨.kSuccess, "", some affected⟩ ⟨store', none⟩
  | refused {message : String} (hexec : store.exec statement = none ∨ faults) :
      Settled faults reported store statement (.void .kSystemError message) ⟨store, none⟩

/-- A write that opens no transaction.

**Proof sketch.** The write opens no transaction, so that the tables left are the committed ones,
whether it is executed or fails. -/
lemma settled_ensures (hopens : OpensOnDemand db content) {faults : Prop}
    {reported : ℤ → Prop} {statement : Statement} {p : Db (Result ℤ)}
    (hp : p.Only (· ≠ .beginTransaction)) {s : σ} (hs : (content s).working = none)
    (hwritten : p.Ensures db s fun result s' =>
      Written faults reported (content s) statement result (content s')) :
    p.Ensures db s fun result s' =>
      Settled faults reported (content s).committed statement result (content s') := by
  have hidle := idle_run hopens hp hs
  show Settled faults reported (content s).committed statement (p.run db s).1
    (content (p.run db s).2)
  change Written faults reported (content s) statement (p.run db s).1
    (content (p.run db s).2) at hwritten
  generalize (p.run db s).1 = result at hwritten ⊢
  generalize content (p.run db s).2 = session' at hwritten hidle ⊢
  generalize content s = session at hwritten hs ⊢
  obtain ⟨committed, working⟩ := session
  obtain rfl : working = none := hs
  cases hwritten with
  | executed hexec hreported => exact .executed hexec hreported
  | failed hexec hcommitted =>
    obtain ⟨committed', working'⟩ := session'
    obtain rfl : working' = none := hidle
    obtain rfl : committed' = committed := hcommitted
    exact .refused hexec

/-- Executing a statement after a check of the connection begins no transaction. -/
lemma statement_only {rejects : Bool → Bool} {rejected : Result ℤ} {sql : String}
    {report : ℤ → ℤ} :
    (isConnected >>= fun connected => if rejects connected = true then pure rejected else
      execute sql >>= fun answer => match answer with
        | none => dbFailureResult
        | some affected => pure ⟨.kSuccess, "", some (report affected)⟩ : Db (Result ℤ)).Only
      (· ≠ .beginTransaction) := by
  refine .bind (.request (by simp)) fun connected => ?_
  split_ifs
  · trivial
  · refine .bind (.request (by simp)) fun answer => ?_
    cases answer with
    | none => exact .bind (.request (by simp)) fun _ => trivial
    | some affected => trivial

/-- Inserting a row begins no transaction. -/
lemma insertRow_only (name : String) (values : KeyValues) :
    (insertRow name values).Only (· ≠ .beginTransaction) := statement_only

/-- Deleting rows begins no transaction. -/
lemma deleteRows_only (name : String) (whereValues : KeyValues) :
    (deleteRows name whereValues).Only (· ≠ .beginTransaction) := statement_only

/-- Updating rows begins no transaction. -/
lemma updateRows_only (name : String) (values whereValues : KeyValues) :
    (updateRows name values whereValues).Only (· ≠ .beginTransaction) := statement_only

/-- Deleting all rows begins no transaction. -/
lemma truncateRows_only (name : String) :
    (truncateRows name).Only (· ≠ .beginTransaction) := statement_only

end Dao
