import QTradeService.Database.Transactions

set_option relaxedAutoImplicit false
set_option autoImplicit false

/-!
# The steps of a run that count

Clients that keep to their transactions change the committed rows when they commit, and at no other
step. A client that has executed nothing yet sees the committed rows.

## Main definitions

* `Database.commits` — the call has published a transaction.
* `Database.executed` — the statement that a call has executed.

## Main results

* `Database.Disciplined.committed_eq`, `Database.Disciplined.replay_of_commits` — the committed
  rows before and after a call.
* `Database.answers_of_only` — a client that only asks is answered from the committed rows.
* `Database.reports_of_first` — the first statement of a client works on the committed rows.
-/

namespace Database

open Sql Program

/-! ## Steps -/

/-- The call has published the transaction of its client. -/
def commits : (call : Call) → call.Answer → Bool
  | .commitTransaction, committed => committed
  | .isReady, _ | .acquire _, _ | .isConnected, _ | .lastError, _ | .beginTransaction, _
  | .rollbackTransaction, _ | .execute _, _ | .query _, _ => false

/-- The text of a statement that changes rows, and how many it is reported to have changed. -/
def executed : (call : Call) → call.Answer → Option (String × Option ℤ)
  | .execute sql, affected => some (sql, affected)
  | .isReady, _ | .acquire _, _ | .isConnected, _ | .lastError, _ | .beginTransaction, _
  | .commitTransaction, _ | .rollbackTransaction, _ | .query _, _ => none

section

variable {schema : Schema} {κ : Type} [DecidableEq κ] {Publishes : List Statement → Prop}
  {counting : Counting} {client : κ} {phase : Phase} {call : Call} {answer : call.Answer}
  {s s' : Shared schema κ}

/-- A call of a client that keeps to its transaction changes nothing, unless it commits. -/
lemma committed_of_not_commits (h : Shared.Serves counting client call s answer s')
    (hallows : (transactions schema Publishes).allows phase call)
    (hphase : InPhase s client phase) (hcommits : commits call answer = false) :
    s'.committed = s.committed := by
  rcases committed_step h hallows hphase with ⟨hsame, -⟩ | ⟨journal, rfl, hnext, -⟩
  · exact hsame
  · cases h with
    | committed => cases hcommits
    | isReady | acquire | isConnected | lastError | begun | notBegun | executed | notExecuted
    | notCommitted | rolledBack | selected | counted | notQueried => rfl
    | published _ _ hjournal => cases hphase.symm.trans hjournal

/-- A commit publishes the transaction of its client. -/
lemma published_of_commits (h : Shared.Serves counting client call s answer s')
    (hallows : (transactions schema Publishes).allows phase call)
    (hphase : InPhase s client phase) (hcommits : commits call answer = true) :
    ∃ journal, (transactions schema Publishes).next phase call answer = .published journal ∧
      Publishes journal ∧ s.committed.replay journal = some s'.committed := by
  cases h with
  | @committed _ journal store hjournal haccepted =>
    obtain ⟨-, journal', rfl, hpublishes⟩ := hallows
    obtain rfl := Option.some.inj (hphase.symm.trans hjournal)
    exact ⟨journal', rfl, hpublishes, haccepted⟩
  | notCommitted | isReady | acquire | isConnected | lastError | begun | notBegun | executed
  | notExecuted | published | rolledBack | selected | counted | notQueried => cases hcommits

/-- A client that has published has done so with a commit.

**Proof sketch.** By cases on the call: of all transitions only a commit that succeeds leads to this
phase. -/
lemma commits_of_next_published {journal : List Statement}
    (h : (transactions schema Publishes).next phase call answer = .published journal)
    (hphase : phase ≠ .published journal) : commits call answer = true := by
  cases call with
  | commitTransaction =>
    cases phase with
    | writing journal' =>
      cases answer with
      | true => rfl
      | false => cases h
    | idle | broken | published => cases h
  | beginTransaction =>
    cases answer with
    | true => cases h
    | false => exact absurd h hphase
  | execute sql =>
    cases phase with
    | writing journal' => cases answer <;> cases h
    | idle | broken | published => cases h
  | rollbackTransaction => cases h
  | isReady | acquire | isConnected | lastError | query => exact absurd h hphase

/-- A statement that is executed works on the rows that its connection sees. -/
lemma reported_of_serves {sql : String} {affected : ℤ} {statement : Statement}
    (h : Shared.Serves counting client (.execute sql) s (some affected) s')
    (hread : read sql = some statement) :
    Shared.Reported counting (s.view client) statement affected := by
  cases h with
  | executed hread' _ _ _ hreported | published hread' _ _ _ hreported =>
    cases hread.symm.trans hread'
    exact hreported

omit [DecidableEq κ] in
/-- A client whose transaction is empty sees the committed rows. -/
lemma view_eq_committed (h : (s.journals client).getD [] = []) :
    s.view client = some s.committed := by
  unfold Shared.view
  rw [h]
  exact Store.replay_nil s.committed

/-- A call that executes nothing leaves an empty transaction empty. -/
lemma journals_of_not_executed (h : Shared.Serves counting client call s answer s')
    (hexecuted : executed call answer = none) (hempty : (s.journals client).getD [] = []) :
    (s'.journals client).getD [] = [] := by
  cases h with
  | isReady | acquire | isConnected | lastError | notBegun | selected | counted | notQueried =>
    exact hempty
  | begun | committed | rolledBack => simp [Shared.setJournal]
  | executed | published | notExecuted => cases hexecuted
  | notCommitted hjournal =>
    rcases hjournal with rfl | rfl
    · simpa [Shared.setJournal] using hempty
    · simp [Shared.setJournal]

end

/-! ## Runs -/

section

variable {schema : Schema} {κ α : Type} [DecidableEq κ] {Publishes : κ → List Statement → Prop}
  {counting : Counting} {phase : κ → Phase} {post : κ → α → Phase → Prop}
  {start clients : Clients Call.Answer α κ (Shared schema κ)}
  {before after events : List (Event Call.Answer κ (Shared schema κ))}
  {event : Event Call.Answer κ (Shared schema κ)} {client : κ}

/-- A step that is no commit leaves the committed rows alone. -/
lemma Disciplined.committed_eq (h : Disciplined Publishes post start phase)
    (hrun : Interleaving (fun client call s => Shared.Serves counting client call s) start
      (before ++ event :: after) clients) (hcommits : commits event.call event.answer = false) :
    event.after.committed = event.before.committed := by
  obtain ⟨middle, rest, hbefore, hshared, hmiddle, hserves, -⟩ := hrun.split rfl
  have hnow := h.interleaving hbefore
  have hphase := hnow.inPhase event.client
  rw [hshared] at hphase
  exact committed_of_not_commits hserves (hnow.allows hmiddle) hphase hcommits

/-- A commit publishes a transaction that the client may publish, and the client is done.

**Proof sketch.** Split the run at the commit. The discipline says which journal is committed there,
and that the program is over, so that the client is silent from then on. -/
lemma Disciplined.replay_of_commits (h : Disciplined Publishes post start phase)
    (hrun : Interleaving (fun client call s => Shared.Serves counting client call s) start
      (before ++ event :: after) clients) (hcommits : commits event.call event.answer = true) :
    ∃ a journal, clients.programs event.client = .pure a ∧
      post event.client a (.published journal) ∧ Publishes event.client journal ∧
      event.before.committed.replay journal = some event.after.committed ∧
      ∀ event' ∈ after, event'.client ≠ event.client := by
  obtain ⟨middle, rest, hbefore, hshared, hmiddle, hserves, hafter⟩ := hrun.split rfl
  have hnow := h.interleaving hbefore
  have hphase := hnow.inPhase event.client
  rw [hshared] at hphase
  obtain ⟨journal, hnext, hpublishes, hreplay⟩ :=
    published_of_commits hserves (hnow.allows hmiddle) hphase hcommits
  have hfollows := hnow.follows event.client
  rw [hmiddle] at hfollows
  have hrest := hfollows.2 event.answer
  rw [hnext] at hrest
  -- a client that has published makes no further call
  obtain ⟨a, hdone, hpost⟩ : ∃ a, rest event.answer = .pure a ∧
      post event.client a (.published journal) := by
    cases hrest' : rest event.answer with
    | pure a =>
      rw [hrest'] at hrest
      exact ⟨a, rfl, hrest⟩
    | call call rest' =>
      rw [hrest'] at hrest
      exact absurd rfl (hrest.1.1 journal)
  have hdone' : (middle.advance event.client (rest event.answer) event.after).programs
      event.client = .pure a := (Function.update_self ..).trans hdone
  obtain ⟨hstays, hsilent⟩ := hafter.of_done hdone'
  exact ⟨a, journal, hstays, hpost, hpublishes, hreplay, hsilent⟩

/-- A client that has published has committed at some step.

**Proof sketch.** By induction on the events. The last one either leaves the phase as it was, or
leads to it, and then it is a commit. -/
lemma exists_commits {journal : List Statement}
    (h : phaseAfter schema Publishes phase events client = .published journal)
    (hstart : phase client ≠ .published journal) :
    ∃ event ∈ events, event.client = client ∧ commits event.call event.answer = true := by
  induction events using List.reverseRecOn with
  | nil => exact absurd h hstart
  | append_singleton events event ih =>
    by_cases hnow : phaseAfter schema Publishes phase events client = .published journal
    · obtain ⟨event', hevent', hcommits⟩ := ih hnow
      exact ⟨event', List.mem_append_left _ hevent', hcommits⟩
    · rw [phaseAfter_append_singleton] at h
      split at h
      · next hclient =>
        refine ⟨event, List.mem_append_right _ (List.mem_singleton_self _), hclient, ?_⟩
        exact commits_of_next_published h hnow
      · exact absurd h hnow

/-- A selection of a client that only asks is answered from the committed rows. -/
lemma answers_of_only {s s' : Shared schema κ} {sql name : String}
    {conditions : List (String × String)} {results : List ResultRow}
    (hrun : Interleaving (fun client call s => Shared.Serves counting client call s) start
      (before ++ ⟨client, .query sql, some results, s, s'⟩ :: after) clients)
    (honly : (start.programs client).Only (Asks schema))
    (hnone : start.shared.journals client = none)
    (hread : read sql = some (.select name conditions)) :
    Answers s.committed name conditions results := by
  obtain ⟨middle, rest, hbefore, rfl, -, hserves, -⟩ := hrun.split rfl
  obtain ⟨-, hjournal⟩ := journals_of_only hbefore honly hnone
  obtain ⟨-, rows, hview, hanswers⟩ := Shared.answers_of_serves hserves hread
  rw [view_eq_committed (by rw [hjournal]; rfl)] at hview
  obtain rfl := Option.some.inj hview
  exact hanswers

/-- The transaction of a client that has executed nothing is empty.

**Proof sketch.** By induction on the run. A step of another client leaves the transaction alone,
and one that executes nothing leaves it empty. -/
lemma journals_of_forall_not_executed
    (hrun : Interleaving (fun client call s => Shared.Serves counting client call s) start events
      clients)
    (hnone : start.shared.journals client = none)
    (hexecuted : ∀ event ∈ events, event.client = client →
      executed event.call event.answer = none) :
    (clients.shared.journals client).getD [] = [] := by
  induction hrun with
  | start =>
    rw [hnone]
    rfl
  | @step events clients mover call rest answer shared _ _ hserves ih =>
    have hempty := ih fun event hevent => hexecuted event (List.mem_append_left _ hevent)
    by_cases hmover : mover = client
    · subst hmover
      exact journals_of_not_executed hserves
        (hexecuted _ (List.mem_append_right _ (List.mem_singleton_self _)) rfl) hempty
    · show (shared.journals client).getD [] = []
      rw [journals_of_ne hserves (Ne.symm hmover)]
      exact hempty

/-- The first statement that a client executes works on the committed rows. -/
lemma reports_of_first {s s' : Shared schema κ} {sql : String} {statement : Statement}
    {affected : ℤ}
    (hrun : Interleaving (fun client call s => Shared.Serves counting client call s) start
      (before ++ ⟨client, .execute sql, some affected, s, s'⟩ :: after) clients)
    (hnone : start.shared.journals client = none)
    (hfirst : ∀ event ∈ before, event.client = client → executed event.call event.answer = none)
    (hread : read sql = some statement) :
    counting.Reports statement (s.committed.rows statement.table) affected := by
  obtain ⟨middle, rest, hbefore, rfl, -, hserves, -⟩ := hrun.split rfl
  have hview := view_eq_committed (journals_of_forall_not_executed hbefore hnone hfirst)
  have hreported := reported_of_serves hserves hread
  rw [hview] at hreported
  obtain ⟨rows, hrows, hreports⟩ := hreported
  obtain rfl := Option.some.inj hrows
  exact hreports

end

end Database
