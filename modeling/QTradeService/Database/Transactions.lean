import QTradeService.Database.Shared

set_option relaxedAutoImplicit false
set_option autoImplicit false

/-!
# Programs that keep to a transaction

A program that keeps the rules of a connection: it writes inside a transaction only, gives a
transaction up as soon as one of its statements failed, publishes at most one transaction and
makes no further change then. Which statements it publishes is known from the program.

## Main definitions

* `Database.Phase`, `Database.transactions` — how far a client is, and what it may do next.
* `Database.Asks` — the calls that may be made at any time and change nothing.
* `Database.InPhase` — the transaction on a connection is what the phase of its client says.

## Main results

* `Database.inPhase_step` — a call moves the transaction on a connection and the phase of its
  client alike.
-/

namespace Database

open Sql Program

/-! ## The discipline -/

/-- How far a client is with its transaction. -/
inductive Phase
  | idle
  /-- A transaction with these statements is open. -/
  | writing (journal : List Statement)
  /-- A statement or the commit has failed. -/
  | broken
  | published (journal : List Statement)

/-- The statement is a correct one that the database can read. -/
def Readable (schema : Schema) (sql : String) (statement : Statement) : Prop :=
  read sql = some statement ∧ schema.Admits statement

/-- Write in a transaction only, publish what may be published, and be done then. -/
def transactions (schema : Schema) (Publishes : List Statement → Prop) :
    Discipline Call.Answer Phase where
  allows phase call := (∀ journal, phase ≠ .published journal) ∧
    match call with
    | .isReady | .acquire _ | .isConnected | .lastError => True
    | .query sql => (phase = .idle ∨ ∃ journal, phase = .writing journal) ∧
        ∃ statement, Readable schema sql statement
    | .beginTransaction => phase = .idle
    | .execute sql => (∃ journal, phase = .writing journal) ∧
        ∃ statement, Readable schema sql statement ∧ statement.IsWrite
    | .commitTransaction => ∃ journal, phase = .writing journal ∧ Publishes journal
    | .rollbackTransaction => phase = .broken ∨ ∃ journal, phase = .writing journal
  next phase
    | .beginTransaction, begun => if begun then .writing [] else phase
    | .execute sql, affected =>
      match phase, affected with
      | .writing journal, some _ => .writing (journal ++ (read sql).toList)
      | _, _ => .broken
    | .commitTransaction, committed =>
      match phase, committed with
      | .writing journal, true => .published journal
      | _, _ => .broken
    | .rollbackTransaction, _ => .idle
    | .isReady, _ | .acquire _, _ | .isConnected, _ | .lastError, _ | .query _, _ => phase

/-- A call that changes nothing. -/
def Asks (schema : Schema) : Call → Prop
  | .isReady | .acquire _ | .isConnected | .lastError => True
  | .query sql => ∃ statement, Readable schema sql statement
  | .beginTransaction | .execute _ | .commitTransaction | .rollbackTransaction => False

section

variable {schema : Schema} {Publishes : List Statement → Prop} {α : Type}

/-- A program that only asks keeps the discipline and stays where it is.

**Proof sketch.** By cases on the call: one that asks is allowed in each of the two phases, and
leads nowhere. -/
lemma follows_of_asks {p : Db α} {phase : Phase} (h : p.Only (Asks schema))
    (hphase : phase = .idle ∨ ∃ journal, phase = .writing journal) :
    p.Follows (transactions schema Publishes) phase fun _ phase' => phase' = phase := by
  have hopen : ∀ journal, phase ≠ .published journal := by
    rintro journal rfl
    rcases hphase with hphase | ⟨journal, hphase⟩ <;> cases hphase
  refine h.follows (fun call hcall => ?_) fun call hcall answer => ?_
  · cases call with
    | query sql => exact ⟨hopen, hphase, hcall⟩
    | isReady | acquire | isConnected | lastError => exact ⟨hopen, trivial⟩
    | beginTransaction | execute | commitTransaction | rollbackTransaction => exact hcall.elim
  · cases call with
    | query | isReady | acquire | isConnected | lastError => rfl
    | beginTransaction | execute | commitTransaction | rollbackTransaction => exact hcall.elim

/-- Ask for the last error. -/
lemma lastError_follows (phase : Phase) (hopen : ∀ journal, phase ≠ .published journal) :
    lastError.Follows (transactions schema Publishes) phase fun _ phase' => phase' = phase :=
  .request ⟨hopen, trivial⟩ fun _ => rfl

/-- Ask whether there is a connection. -/
lemma isConnected_follows (phase : Phase) (hopen : ∀ journal, phase ≠ .published journal) :
    isConnected.Follows (transactions schema Publishes) phase fun _ phase' => phase' = phase :=
  .request ⟨hopen, trivial⟩ fun _ => rfl

end

/-! ## What the discipline keeps -/

section

variable {schema : Schema} {κ : Type} [DecidableEq κ] {Publishes : List Statement → Prop}
  {counting : Counting} {client : κ} {phase : Phase} {call : Call} {answer : call.Answer}
  {s s' : Shared schema κ}

/-- The transaction on the connection of a client is what the phase says. -/
def InPhase (s : Shared schema κ) (client : κ) : Phase → Prop
  | .idle | .published _ => s.journals client = none
  | .writing journal => s.journals client = some journal
  | .broken => True

/-- A call touches the transaction on its own connection only. -/
lemma journals_of_ne (h : Shared.Serves counting client call s answer s') {other : κ}
    (hother : other ≠ client) : s'.journals other = s.journals other := by
  cases h with
  | isReady | acquire | isConnected | lastError | notBegun | published | selected | counted
  | notQueried => rfl
  | begun | executed | notExecuted | committed | notCommitted | rolledBack =>
    exact Function.update_of_ne hother _ _

/-- A call that only asks touches no transaction. -/
lemma journals_of_asks (h : Shared.Serves counting client call s answer s')
    (hasks : Asks schema call) : s'.journals = s.journals := by
  cases h with
  | isReady | acquire | isConnected | lastError | notBegun | selected | counted | notQueried => rfl
  | begun | executed | published | notExecuted | committed | notCommitted | rolledBack =>
    exact hasks.elim

/-- A call leaves the phases of the other clients right. -/
lemma inPhase_of_ne (h : Shared.Serves counting client call s answer s') {other : κ}
    (hother : other ≠ client) (hphase : InPhase s other phase) : InPhase s' other phase := by
  unfold InPhase at hphase ⊢
  rw [journals_of_ne h hother]
  exact hphase

/-- A call moves the transaction on its connection and the phase of its client alike.

**Proof sketch.** By cases on how the call is served. What begins, extends or ends the transaction
moves the phase with it. -/
lemma inPhase_step (h : Shared.Serves counting client call s answer s')
    (hallows : (transactions schema Publishes).allows phase call)
    (hphase : InPhase s client phase) :
    InPhase s' client ((transactions schema Publishes).next phase call answer) := by
  cases h with
  | isReady | acquire | isConnected | lastError | notBegun | selected | counted | notQueried =>
    exact hphase
  | begun | rolledBack => exact Function.update_self ..
  | @executed _ sql statement journal _ affected hread _ hjournal =>
    obtain ⟨-, ⟨journal', rfl⟩, -⟩ := hallows
    obtain rfl := Option.some.inj (hphase.symm.trans hjournal)
    simp only [transactions, hread, Option.toList_some]
    exact Function.update_self ..
  | published _ _ hjournal =>
    obtain ⟨-, ⟨journal, rfl⟩, -⟩ := hallows
    cases hphase.symm.trans hjournal
  | notExecuted =>
    obtain ⟨-, ⟨journal, rfl⟩, -⟩ := hallows
    trivial
  | committed =>
    obtain ⟨-, journal, rfl, -⟩ := hallows
    exact Function.update_self ..
  | notCommitted =>
    obtain ⟨-, journal, rfl, -⟩ := hallows
    trivial

/-- What a call commits: nothing, or the transaction that the phase tells.

**Proof sketch.** By cases on how the call is served. Only a commit changes what is committed, and
it replays the journal of the phase. -/
lemma committed_step (h : Shared.Serves counting client call s answer s')
    (hallows : (transactions schema Publishes).allows phase call)
    (hphase : InPhase s client phase) :
    (s'.committed = s.committed ∧ ∀ journal,
      (transactions schema Publishes).next phase call answer = .published journal ↔
        phase = .published journal) ∨
    ∃ journal, phase = .writing journal ∧
      (transactions schema Publishes).next phase call answer = .published journal ∧
      Publishes journal ∧ s.committed.replay journal = some s'.committed := by
  cases h with
  | isReady | acquire | isConnected | lastError | notBegun | selected | counted | notQueried =>
    exact .inl ⟨rfl, fun _ => Iff.rfl⟩
  | begun =>
    obtain rfl : phase = .idle := hallows.2
    exact .inl ⟨rfl, fun _ => ⟨nofun, nofun⟩⟩
  | executed | notExecuted =>
    obtain ⟨-, ⟨journal, rfl⟩, -⟩ := hallows
    exact .inl ⟨rfl, fun _ => ⟨nofun, nofun⟩⟩
  | published _ _ hjournal =>
    obtain ⟨-, ⟨journal, rfl⟩, -⟩ := hallows
    cases hphase.symm.trans hjournal
  | @committed _ journal store hjournal haccepted =>
    obtain ⟨-, journal', rfl, hpublishes⟩ := hallows
    obtain rfl := Option.some.inj (hphase.symm.trans hjournal)
    exact .inr ⟨journal', rfl, rfl, hpublishes, haccepted⟩
  | notCommitted =>
    obtain ⟨-, journal, rfl, -⟩ := hallows
    exact .inl ⟨rfl, fun _ => ⟨nofun, nofun⟩⟩
  | rolledBack =>
    exact .inl ⟨rfl, fun journal => ⟨nofun, fun hphase => absurd hphase (hallows.1 journal)⟩⟩

end

/-! ## Runs -/

section

variable {schema : Schema} {κ α : Type} [DecidableEq κ] {Publishes : κ → List Statement → Prop}
  {counting : Counting} {phase : κ → Phase} {post : κ → α → Phase → Prop}
  {start clients : Clients Call.Answer α κ (Shared schema κ)}
  {events : List (Event Call.Answer κ (Shared schema κ))}

/-- All clients keep the discipline, and are in their phases. -/
structure Disciplined (Publishes : κ → List Statement → Prop) (post : κ → α → Phase → Prop)
    (clients : Clients Call.Answer α κ (Shared schema κ)) (phase : κ → Phase) : Prop where
  follows : ∀ client, (clients.programs client).Follows (transactions schema (Publishes client))
    (phase client) (post client)
  inPhase : ∀ client, InPhase clients.shared client (phase client)

/-- The phase of a client after the events. -/
def phaseAfter (schema : Schema) (Publishes : κ → List Statement → Prop) (phase : κ → Phase)
    (events : List (Event Call.Answer κ (Shared schema κ))) (client : κ) : Phase :=
  (transactions schema (Publishes client)).after client (phase client) events

/-- The phases after one more event. -/
lemma phaseAfter_append_singleton (event : Event Call.Answer κ (Shared schema κ)) (client : κ) :
    phaseAfter schema Publishes phase (events ++ [event]) client =
      if event.client = client then
        (transactions schema (Publishes client)).next
          (phaseAfter schema Publishes phase events client) event.call event.answer
      else phaseAfter schema Publishes phase events client :=
  Discipline.after_append_singleton ..

omit [DecidableEq κ] in
/-- The next call of a client that keeps the discipline is an allowed one. -/
lemma Disciplined.allows (h : Disciplined Publishes post clients phase) {client : κ} {call : Call}
    {rest : call.Answer → Db α} (hclient : clients.programs client = .call call rest) :
    (transactions schema (Publishes client)).allows (phase client) call := by
  have hfollows := h.follows client
  rw [hclient] at hfollows
  exact hfollows.1

omit [DecidableEq κ] in
/-- A client that has published is done. -/
lemma Disciplined.done_of_published (h : Disciplined Publishes post clients phase) {client : κ}
    {journal : List Statement} (hpublished : phase client = .published journal) :
    ∃ a, clients.programs client = .pure a ∧ post client a (.published journal) := by
  have hfollows := h.follows client
  rw [hpublished] at hfollows
  cases hclient : clients.programs client with
  | pure a =>
    rw [hclient] at hfollows
    exact ⟨a, rfl, hfollows⟩
  | call call rest =>
    rw [hclient] at hfollows
    exact absurd rfl (hfollows.1.1 journal)

omit [DecidableEq κ] in
/-- What holds of a client that is done. -/
lemma Disciplined.post_of_done (h : Disciplined Publishes post clients phase) {client : κ} {a : α}
    (hdone : clients.programs client = .pure a) : post client a (phase client) := by
  have hfollows := h.follows client
  rw [hdone] at hfollows
  exact hfollows

/-- Clients that keep the discipline keep it throughout.

**Proof sketch.** Induction on the run. A call is an allowed one in the phase of its client, so it
moves the transaction on its connection and the phase alike, and touches no other connection. -/
theorem Disciplined.interleaving (h : Disciplined Publishes post start phase)
    (hrun : Interleaving (fun client call s => Shared.Serves counting client call s) start events
      clients) :
    Disciplined Publishes post clients (phaseAfter schema Publishes phase events) where
  follows client := hrun.follows (h.follows client)
  inPhase := by
    induction hrun with
    | start => exact h.inPhase
    | @step events clients mover call rest answer shared hrun hclient hserves ih =>
      have hnow : Disciplined Publishes post clients (phaseAfter schema Publishes phase events) :=
        ⟨fun client => hrun.follows (h.follows client), ih⟩
      intro client
      rw [phaseAfter_append_singleton]
      by_cases hmover : mover = client
      · subst hmover
        rw [if_pos rfl]
        exact inPhase_step hserves (hnow.allows hclient) (ih mover)
      · rw [if_neg hmover]
        exact inPhase_of_ne hserves (Ne.symm hmover) (ih client)

/-- A client that only asks has no transaction.

**Proof sketch.** By induction on the run. A step of another client does not matter, and this client
only asks. -/
lemma journals_of_only {client : κ}
    (hrun : Interleaving (fun client call s => Shared.Serves counting client call s) start events
      clients)
    (honly : (start.programs client).Only (Asks schema))
    (hnone : start.shared.journals client = none) :
    (clients.programs client).Only (Asks schema) ∧ clients.shared.journals client = none := by
  induction hrun with
  | start => exact ⟨honly, hnone⟩
  | @step events clients mover call rest answer shared _ hclient hserves ih =>
    by_cases hmover : mover = client
    · subst hmover
      have hasks := ih.1
      rw [hclient] at hasks
      simp only [Clients.advance, Function.update_self]
      refine ⟨hasks.2 answer, ?_⟩
      rw [journals_of_asks hserves hasks.1]
      exact ih.2
    · simp only [Clients.advance, Function.update_of_ne (Ne.symm hmover)]
      rw [journals_of_ne hserves (Ne.symm hmover)]
      exact ih

/-- The transactions that were published between two moments, in their order. -/
structure Published (Publishes : κ → List Statement → Prop) (before after : κ → Phase)
    (store store' : Store schema) (published : List (κ × List Statement)) : Prop where
  nodup : (published.map Prod.fst).Nodup
  mem : ∀ client journal, (client, journal) ∈ published ↔
    after client = .published journal ∧ before client ≠ .published journal
  kept : ∀ client journal, before client = .published journal → after client = .published journal
  allowed : ∀ entry ∈ published, Publishes entry.1 entry.2
  replay : store.replay (published.flatMap Prod.snd) = some store'

omit [DecidableEq κ] in
/-- A call that publishes nothing. -/
lemma Published.congr {before after after' : κ → Phase} {store store' : Store schema}
    {published : List (κ × List Statement)}
    (h : Published Publishes before after store store' published)
    (hiff : ∀ client journal, after' client = .published journal ↔
      after client = .published journal) :
    Published Publishes before after' store store' published where
  nodup := h.nodup
  mem client journal := by
    rw [hiff]
    exact h.mem client journal
  kept client journal hbefore := (hiff client journal).mpr (h.kept client journal hbefore)
  allowed := h.allowed
  replay := h.replay

/-- A call that publishes the transaction of its client.

**Proof sketch.** A client that is writing has not published before, so that the new entry is the
only one of its client. -/
lemma Published.append {before after after' : κ → Phase} {store store' store'' : Store schema}
    {published : List (κ × List Statement)}
    (h : Published Publishes before after store store' published) {mover : κ}
    {journal : List Statement} (hwriting : after mover = .writing journal)
    (hmover : after' mover = .published journal)
    (hother : ∀ client, mover ≠ client → after' client = after client)
    (hallowed : Publishes mover journal) (hreplay : store'.replay journal = some store'') :
    Published Publishes before after' store store'' (published ++ [(mover, journal)]) := by
  have hunpublished : ∀ journal', before mover ≠ .published journal' := by
    intro journal' hbefore
    have hkept := h.kept mover journal' hbefore
    rw [hwriting] at hkept
    cases hkept
  have hfirst : mover ∉ published.map Prod.fst := by
    intro hmem
    obtain ⟨⟨client, journal'⟩, hentry, rfl⟩ := List.mem_map.mp hmem
    have hafter := ((h.mem client journal').mp hentry).1
    rw [hwriting] at hafter
    cases hafter
  constructor
  · rw [List.map_append, List.nodup_append']
    exact ⟨h.nodup, List.nodup_singleton _, by simpa using hfirst⟩
  · intro client journal'
    rw [List.mem_append, List.mem_singleton, h.mem]
    by_cases hclient : mover = client
    · subst hclient
      rw [hmover, hwriting]
      simp [hunpublished journal', eq_comm]
    · rw [hother client hclient]
      simp [Ne.symm hclient]
  · intro client journal' hbefore
    by_cases hclient : mover = client
    · subst hclient
      exact absurd hbefore (hunpublished journal')
    · rw [hother client hclient]
      exact h.kept client journal' hbefore
  · intro entry hentry
    rcases List.mem_append.mp hentry with hentry | hentry
    · exact h.allowed entry hentry
    · rw [List.mem_singleton.mp hentry]
      exact hallowed
  · rw [List.flatMap_append, List.flatMap_singleton, Store.replay_append, h.replay]
    exact hreplay

/-- What is committed are the published transactions, one after the other.

**Proof sketch.** Induction on the run. A call that commits something publishes the transaction of
its client, on top of what was committed before; any other call publishes nothing. -/
theorem Disciplined.exists_published (h : Disciplined Publishes post start phase)
    (hrun : Interleaving (fun client call s => Shared.Serves counting client call s) start events
      clients) :
    ∃ published, Published Publishes phase (phaseAfter schema Publishes phase events)
      start.shared.committed clients.shared.committed published := by
  induction hrun with
  | start =>
    refine ⟨[], List.nodup_nil, fun client journal => ?_, fun _ _ hphase => hphase, nofun, rfl⟩
    exact ⟨nofun, fun hphase => absurd hphase.1 hphase.2⟩
  | @step events clients mover call rest answer shared hrun hclient hserves ih =>
    obtain ⟨published, ih⟩ := ih
    have hnow := h.interleaving hrun
    have hother (client : κ) (hne : mover ≠ client) :
        phaseAfter schema Publishes phase
            (events ++ [⟨mover, call, answer, clients.shared, shared⟩]) client =
          phaseAfter schema Publishes phase events client := by
      rw [phaseAfter_append_singleton, if_neg hne]
    have hmover : phaseAfter schema Publishes phase
          (events ++ [⟨mover, call, answer, clients.shared, shared⟩]) mover =
        (transactions schema (Publishes mover)).next
          (phaseAfter schema Publishes phase events mover) call answer := by
      rw [phaseAfter_append_singleton, if_pos rfl]
    rcases committed_step hserves (hnow.allows hclient) (hnow.inPhase mover) with
      ⟨hsame, hphase⟩ | ⟨journal, hwriting, hpublished, hallowed, hreplay⟩
    · refine ⟨published, ?_⟩
      show Published _ _ _ _ shared.committed published
      rw [hsame]
      refine ih.congr fun client journal => ?_
      by_cases hclient : mover = client
      · subst hclient
        rw [hmover]
        exact hphase journal
      · rw [hother client hclient]
    · exact ⟨published ++ [(mover, journal)],
        ih.append hwriting (hmover.trans hpublished) hother hallowed hreplay⟩

end

end Database
