import QTradeService.Dao.Transactions
import QTradeService.Database.InStep

set_option relaxedAutoImplicit false
set_option autoImplicit false

/-!
# The data access objects in two runs

The functions of `Dao.DmlUtils` make calls in step, if what they write is alike and what they read
is asked for by columns that are not secret. Their results have the same error codes, and data
that are alike; the messages may differ.

## Main definitions

* `Dao.ResultsInStep` — results of two runs.

## Main results

* `Dao.countRows_inStep`, `Dao.selectRows_inStep`, `Dao.insertRecords_inStep`,
  `Dao.updateRecords_inStep`.
-/

namespace Dao

open Sql Database Program

/-- The results of two runs: the same error code, and data that are alike. -/
structure ResultsInStep {α : Type} (related : α → α → Prop) (result result' : Result α) :
    Prop where
  errorCode : result.errorCode = result'.errorCode
  data : Option.Rel related result.data result'.data

/-- Failures with the same code. -/
lemma ResultsInStep.void {α : Type} {related : α → α → Prop} (errorCode : ErrorCode)
    (message message' : String) :
    ResultsInStep related (.void errorCode message) (.void errorCode message') :=
  ⟨rfl, .none⟩

/-- Successes with data that are alike. -/
lemma ResultsInStep.success {α : Type} {related : α → α → Prop} {a a' : α} (h : related a a')
    (message message' : String) :
    ResultsInStep related ⟨.kSuccess, message, some a⟩ ⟨.kSuccess, message', some a'⟩ :=
  ⟨rfl, .some h⟩

/-- The same data in both runs. -/
lemma ResultsInStep.data_eq {α : Type} {result result' : Result α}
    (h : ResultsInStep Eq result result') : result.data = result'.data := by
  have hdata := h.data
  generalize result.data = data at hdata
  generalize result'.data = data' at hdata
  cases hdata with
  | none => rfl
  | some hsame => rw [hsame]

/-- The data of both runs, with values that are alike in place of missing data. -/
lemma ResultsInStep.getD {α : Type} {related : α → α → Prop} {result result' : Result α}
    (h : ResultsInStep related result result') {a a' : α} (hdefault : related a a') :
    related (result.data.getD a) (result'.data.getD a') := by
  have hdata := h.data
  generalize result.data = data at hdata ⊢
  generalize result'.data = data' at hdata ⊢
  cases hdata with
  | none => exact hdefault
  | some halike => exact halike

section

variable {schema : Schema} {secrecy : Secrecy} {stage : Stage}

/-! ## Calls -/

/-- Ask whether there is a connection. -/
lemma isConnected_inStep (stage : Stage) :
    isConnected.Coupled isConnected (inStep schema secrecy) stage fun connected connected' stage' =>
      connected = connected' ∧ stage' = stage := by
  refine .request (.isConnected stage) fun connected connected' stage' h => ?_
  cases h
  exact ⟨rfl, rfl⟩

/-- Report a failure. -/
lemma dbFailureResult_inStep {α : Type} {related : α → α → Prop} (stage : Stage) :
    (dbFailureResult : Db (Result α)).Coupled dbFailureResult (inStep schema secrecy) stage
      fun result result' stage' => ResultsInStep related result result' ∧
        result.errorCode = .kSystemError ∧ stage' = stage := by
  have hlastError : lastError.Coupled lastError (inStep schema secrecy) stage
      fun _ _ stage' => stage' = stage := by
    refine .request (.lastError stage) fun message message' stage' h => ?_
    cases h
    rfl
  exact hlastError.bind fun message message' stage' hstage =>
    .pure ⟨.void .kSystemError message message', rfl, hstage⟩

/-! ## Reading -/

/-- Rows of two runs, of a table that is read by columns that are not secret. -/
def RowsInStep (schema : Schema) (secrecy : Secrecy) (name : String)
    (results results' : List ResultRow) : Prop :=
  ∀ table ∈ schema name, ∃ rows rows' : List Row,
    List.Forall₂ (secrecy.Rows name) rows rows' ∧ List.Forall₂ (Shows table) rows results ∧
      List.Forall₂ (Shows table) rows' results'

variable (hwords : schema.Wordy) {name : String} {table : TableSchema}
  (htable : table ∈ schema name) {whereValues : KeyValues}

include hwords htable

/-- `SelectRows`.

**Proof sketch.** Both runs are connected or not, and make the same query, as its conditions are
public. Both are answered with rows in step, or none is answered. -/
lemma selectRows_inStep (hstage : stage ≠ .broken) (hwhere : table.Fits whereValues)
    (hopen : secrecy.Open name (conditionsOf whereValues))
    (hlisted : Listed schema secrecy name (conditionsOf whereValues)) :
    (selectRows name whereValues).Coupled (selectRows name whereValues) (inStep schema secrecy)
      stage fun result result' stage' =>
        ResultsInStep (RowsInStep schema secrecy name) result result' ∧ stage' = stage := by
  refine (isConnected_inStep stage).bind fun connected connected' stage' h => ?_
  obtain ⟨rfl, rfl⟩ := h
  cases connected with
  | false => exact .pure ⟨.void .kSystemError _ _, rfl⟩
  | true =>
    have hreadable := readable_select hwords htable hwhere
    refine Coupled.bind (Coupled.request (.select hstage hreadable hopen hlisted)
      fun _ _ _ h => h) fun answer answer' stage'' h => ?_
    cases h with
    | notQueried =>
      exact (dbFailureResult_inStep _).mono fun result result' stage' h => ⟨h.1, h.2.2⟩
    | selected hread halike =>
      cases hread.symm.trans hreadable.1
      exact .pure ⟨.success halike _ _, rfl⟩
    | counted hread => cases hread.symm.trans hreadable.1

/-- `CountRows`.

**Proof sketch.** As for `selectRows_inStep`; the counts are the same. -/
lemma countRows_inStep (hstage : stage ≠ .broken) (hwhere : table.Fits whereValues)
    (hopen : secrecy.Open name (conditionsOf whereValues)) :
    (countRows name whereValues).Coupled (countRows name whereValues) (inStep schema secrecy)
      stage fun result result' stage' => ResultsInStep Eq result result' ∧ stage' = stage := by
  refine (isConnected_inStep stage).bind fun connected connected' stage' h => ?_
  obtain ⟨rfl, rfl⟩ := h
  cases connected with
  | false => exact .pure ⟨.void .kSystemError _ _, rfl⟩
  | true =>
    have hreadable := readable_count hwords htable hwhere
    refine Coupled.bind (Coupled.request (.count hstage hreadable hopen)
      fun _ _ _ h => h) fun answer answer' stage'' h => ?_
    cases h with
    | notQueried =>
      exact (dbFailureResult_inStep _).mono fun result result' stage' h => ⟨h.1, h.2.2⟩
    | selected hread => cases hread.symm.trans hreadable.1
    | @counted _ _ label _ _ row row' _ _ hread hcount =>
      cases hread.symm.trans hreadable.1
      have hsame : assignInt64Field row "cnt" = assignInt64Field row' "cnt" := hcount
      dsimp only
      rw [hsame]
      cases assignInt64Field row' "cnt" with
      | none => exact .pure ⟨.void .kSystemError _ _, rfl⟩
      | some count => exact .pure ⟨.success rfl _ _, rfl⟩

/-! ## Writing -/

/-- Both numbers are zero, or none is. -/
def ZeroTogether (n n' : ℤ) : Prop := n = 0 ↔ n' = 0

/-- What a statement in a transaction returns in two runs. The transaction stays open unless the
statement failed. -/
def WrittenInStep (result result' : Result ℤ) (stage : Stage) : Prop :=
  ResultsInStep ZeroTogether result result' ∧
    (result.errorCode = .kSuccess → stage = .writing)

omit hwords htable in
/-- A failed statement is reported. -/
lemma dbFailureResult_writtenInStep (stage : Stage) :
    (dbFailureResult : Db (Result ℤ)).Coupled dbFailureResult (inStep schema secrecy) stage
      WrittenInStep := by
  refine (dbFailureResult_inStep stage).mono fun result result' stage' h => ⟨h.1, fun hcode => ?_⟩
  rw [h.2.1] at hcode
  cases hcode

/-- Values for the columns of one statement in two runs. -/
structure ValuesInStep (secrecy : Secrecy) (name : String) (table : TableSchema)
    (values values' : KeyValues) : Prop where
  fits : table.Fits values
  fits' : table.Fits values'
  alike : secrecy.Values name values values'
  ne_nil : values ≠ []

omit hwords htable in
/-- There are values in the second run as well. -/
lemma ValuesInStep.ne_nil' {values values' : KeyValues}
    (h : ValuesInStep secrecy name table values values') : values' ≠ [] := by
  rintro rfl
  exact h.ne_nil (List.forall₂_nil_right_iff.mp h.alike)

/-- `InsertRow`.

**Proof sketch.** The two statements differ in the secret values only, so that both are executed or
none. An insert reports one row. -/
lemma insertRow_inStep {values values' : KeyValues}
    (hvalues : ValuesInStep secrecy name table values values')
    (hcomplete : ∀ column ∈ table.columns, column ∈ values.map Prod.fst) :
    (insertRow name values).Coupled (insertRow name values') (inStep schema secrecy) .writing
      WrittenInStep := by
  have hcomplete' : ∀ column ∈ table.columns, column ∈ values'.map Prod.fst := by
    rw [← hvalues.alike.columns]
    exact hcomplete
  refine (isConnected_inStep .writing).bind fun connected connected' stage' h => ?_
  obtain ⟨rfl, rfl⟩ := h
  cases connected with
  | false => exact .pure ⟨.void .kSystemError _ _, nofun⟩
  | true =>
    rw [if_neg (by simpa using hvalues.ne_nil), if_neg (by simpa using hvalues.ne_nil')]
    refine Coupled.bind (Coupled.request (.execute
      (readable_insert hwords htable hvalues.fits hcomplete hvalues.ne_nil)
      (readable_insert hwords htable hvalues.fits' hcomplete' hvalues.ne_nil')
      trivial trivial (.insert hvalues.alike)) fun _ _ _ h => h) fun answer answer' stage h => ?_
    cases h with
    | executed =>
      have hone : ZeroTogether 1 1 := Iff.rfl
      exact .pure ⟨.success hone _ _, fun _ => rfl⟩
    | notExecuted => exact dbFailureResult_writtenInStep .broken

/-- `UpdateRows`.

**Proof sketch.** The two statements differ in the secret values only. Both are executed or none,
and the counts are zero together. -/
lemma updateRows_inStep {values values' : KeyValues}
    (hvalues : ValuesInStep secrecy name table values values') (hwhere : table.Fits whereValues)
    (hwhereValues : whereValues ≠ []) (hopen : secrecy.Open name (conditionsOf whereValues)) :
    (updateRows name values whereValues).Coupled (updateRows name values' whereValues)
      (inStep schema secrecy) .writing WrittenInStep := by
  refine (isConnected_inStep .writing).bind fun connected connected' stage' h => ?_
  obtain ⟨rfl, rfl⟩ := h
  cases connected with
  | false => exact .pure ⟨.void .kSystemError _ _, nofun⟩
  | true =>
    rw [if_neg (by simpa using ⟨hvalues.ne_nil, hwhereValues⟩),
      if_neg (by simpa using ⟨hvalues.ne_nil', hwhereValues⟩)]
    refine Coupled.bind (Coupled.request (.execute
      (readable_update hwords htable hvalues.fits hwhere hvalues.ne_nil)
      (readable_update hwords htable hvalues.fits' hwhere hvalues.ne_nil')
      trivial trivial (.update hvalues.alike hopen)) fun _ _ _ h => h)
      fun answer answer' stage h => ?_
    cases h with
    | @executed _ _ affected affected' haffected =>
      have hzero : ZeroTogether affected affected' := haffected
      exact .pure ⟨.success hzero _ _, fun _ => rfl⟩
    | notExecuted => exact dbFailureResult_writtenInStep .broken

variable {Record : Type} {buildValues : Record → KeyValues} {record record' : Record}

/-- `Insert` of one record.

**Proof sketch.** The loop runs once in both runs, which end with the same code. -/
lemma insertRecords_inStep
    (hvalues : ValuesInStep secrecy name table (buildValues record) (buildValues record'))
    (hcomplete : ∀ column ∈ table.columns, column ∈ (buildValues record).map Prod.fst) :
    (insertRecords name buildValues [record]).Coupled (insertRecords name buildValues [record'])
      (inStep schema secrecy) .writing WrittenInStep := by
  show (insertFrom name buildValues 0 [record]).Coupled (insertFrom name buildValues 0 [record'])
    _ _ _
  unfold insertFrom
  rw [if_neg (by simpa using hvalues.ne_nil), if_neg (by simpa using hvalues.ne_nil')]
  refine (insertRow_inStep hwords htable hvalues hcomplete).bind fun result result' stage h => ?_
  obtain ⟨h, hstage⟩ := h
  by_cases hcode : result.errorCode = .kSuccess
  · rw [if_neg (not_not.mpr hcode), if_neg (not_not.mpr (h.errorCode.symm.trans hcode))]
    have hzero : ZeroTogether (result.data.getD 0) (result'.data.getD 0) := h.getD Iff.rfl
    rw [Int.zero_add, Int.zero_add]
    exact .pure ⟨.success hzero _ _, fun _ => hstage hcode⟩
  · rw [if_pos hcode, if_pos fun hcode' => hcode (h.errorCode.trans hcode')]
    exact .pure ⟨h, hstage⟩

/-- `Update`. -/
lemma updateRecords_inStep {whereConditions : Record}
    (hvalues : ValuesInStep secrecy name table (buildValues record) (buildValues record'))
    (hwhere : table.Fits (buildValues whereConditions))
    (hwhereValues : buildValues whereConditions ≠ [])
    (hopen : secrecy.Open name (conditionsOf (buildValues whereConditions))) :
    (updateRecords name buildValues record whereConditions).Coupled
      (updateRecords name buildValues record' whereConditions) (inStep schema secrecy) .writing
      WrittenInStep := by
  unfold updateRecords
  rw [if_neg (by simpa using ⟨hvalues.ne_nil, hwhereValues⟩),
    if_neg (by simpa using ⟨hvalues.ne_nil', hwhereValues⟩)]
  exact updateRows_inStep hwords htable hvalues hwhere hwhereValues hopen

end

end Dao
