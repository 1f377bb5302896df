import Mathlib.Data.List.Nodup
import QTradeService.Library.Linearization

set_option relaxedAutoImplicit false
set_option autoImplicit false

/-!
# Programs that share a mutex

Clients run beside each other, statement by statement, on a state that a mutex protects. Each of
them takes the mutex once, works on the state, and is done when it has released it; what it does
before does not touch the state. Then the clients might as well have run one after the other, in
the order in which they released the mutex: the statements of others between its own make no
difference to any of them.

## Main definitions

* `Mutex.Call`, `Mutex.Guarded`, `Mutex.environment` — the calls of a client, the protected state
  and what the calls do to it.
* `Mutex.discipline` — take the mutex once, and touch the state only while holding it.
* `Mutex.alone`, `Mutex.withLock` — what the calls do for a client that is alone, and work under
  the mutex.

## Main results

* `Mutex.runs_of_unlock` — a client that releases the mutex has done what it does alone.
* `Mutex.linearizes` — the clients take effect when they release the mutex.
* `Mutex.no_deadlock` — every client can be done in the end.
-/

namespace Mutex

open Program

variable {ι : Type} {ο : ι → Type} {α β κ σ ε ρ : Type}

/-! ## Calls -/

/-- The calls of a client: it takes the mutex, releases it, or calls something else. -/
inductive Call (ι : Type)
  | lock
  | unlock
  | inner (i : ι)

/-- What the calls answer. -/
@[reducible] def Call.Answer (ο : ι → Type) : Call ι → Type
  | .lock | .unlock => Unit
  | .inner i => ο i

/-- The call releases the mutex. -/
def Call.releases : Call ι → Bool
  | .unlock => true
  | .lock | .inner _ => false

/-- Take the mutex. -/
def lock : Program (Call.Answer ο) Unit := Program.request Call.lock

/-- Release the mutex. -/
def unlock : Program (Call.Answer ο) Unit := Program.request Call.unlock

/-- Make another call. -/
def inner (i : ι) : Program (Call.Answer ο) (ο i) := Program.request (Call.inner i)

/-- A state behind a mutex. -/
structure Guarded (κ σ : Type) where
  /-- The client that holds the mutex. -/
  owner : Option κ
  value : σ
  /-- The value when the mutex was released last. No call reads it. -/
  settled : σ

/-- A state behind a mutex that nobody holds. -/
def Guarded.free (s : σ) : Guarded κ σ := ⟨none, s, s⟩

/-- What the calls of a client may answer, and do to the protected state. A client that asks for
the mutex waits until it is free. -/
inductive environment (effect : Effect ο σ) : Environment (Call.Answer ο) κ (Guarded κ σ)
  | lock {client : κ} {s : Guarded κ σ} (hfree : s.owner = none) :
      environment effect client .lock s () { s with owner := some client }
  | unlock {client : κ} {s : Guarded κ σ} (hown : s.owner = some client) :
      environment effect client .unlock s () (.free s.value)
  | inner {client : κ} {s : Guarded κ σ} {i : ι} {answer : ο i} {value : σ}
      (heffect : effect i s.value answer value) :
      environment effect client (.inner i) s answer { s with value := value }

/-- Releasing the mutex settles the state. -/
lemma environment.eq_free {effect : Effect ο σ} {client : κ} {i : Call ι} {s s' : Guarded κ σ}
    {answer : Call.Answer ο i} (h : environment effect client i s answer s')
    (hreleases : i.releases) : s' = .free s.value := by
  cases h with
  | lock | inner => cases hreleases
  | unlock hown => rfl

/-- Nothing else settles the state. -/
lemma environment.settled_eq {effect : Effect ο σ} {client : κ} {i : Call ι} {s s' : Guarded κ σ}
    {answer : Call.Answer ο i} (h : environment effect client i s answer s')
    (hreleases : ¬i.releases) : s'.settled = s.settled := by
  cases h with
  | lock hfree => rfl
  | inner heffect => rfl
  | unlock hown => exact absurd rfl hreleases

/-- What a call answers and does, unless its client has to wait. -/
def serveReady [DecidableEq κ] (handler : Handler ο σ) (client : κ) :
    (i : Call ι) → Guarded κ σ → Option (Call.Answer ο i × Guarded κ σ)
  | .lock, s => if s.owner = none then some ((), { s with owner := some client }) else none
  | .unlock, s => if s.owner = some client then some ((), .free s.value) else none
  | .inner i, s => some ((handler i s.value).1, { s with value := (handler i s.value).2 })

/-- These answers are among the possible ones.

**Proof sketch.** By cases on the call. A lock and an unlock are answered only when they are
possible. -/
lemma environment_serveReady [DecidableEq κ] {effect : Effect ο σ} {handler : Handler ο σ}
    (h : ∀ i s, effect i s (handler i s).1 (handler i s).2) (client : κ) (i : Call ι)
    (s : Guarded κ σ) (answer : Call.Answer ο i) (s' : Guarded κ σ)
    (hserve : serveReady handler client i s = some (answer, s')) :
    environment effect client i s answer s' := by
  cases i with
  | lock =>
    simp only [serveReady] at hserve
    split_ifs at hserve with hfree
    cases hserve
    exact .lock hfree
  | unlock =>
    simp only [serveReady] at hserve
    split_ifs at hserve with hown
    cases hserve
    exact .unlock hown
  | inner i =>
    cases hserve
    exact .inner (h i s.value)

/-- A schedule in which the clients wait for the mutex is a run. -/
lemma interleaving_serveReady [DecidableEq κ] {effect : Effect ο σ} {handler : Handler ο σ}
    (h : ∀ i s, effect i s (handler i s).1 (handler i s).2) (order : List κ)
    (clients : Clients (Call.Answer ο) α κ (Guarded κ σ)) :
    Interleaving (environment effect) clients (scheduleReady (serveReady handler) order clients).1
      (scheduleReady (serveReady handler) order clients).2 :=
  interleaving_scheduleReady (environment_serveReady h) order clients

/-! ## The discipline -/

/-- How far a client is. -/
inductive Stage
  | before
  | inside
  | after
  deriving DecidableEq

/-- A client takes the mutex once and is done when it has released it. Before, it makes only the
calls that are `free`. -/
def discipline (free : ι → Prop) : Discipline (Call.Answer ο) Stage where
  allows
    | .before, .lock => True
    | .before, .inner i => free i
    | .inside, .unlock => True
    | .inside, .inner _ => True
    | _, _ => False
  next
    | .before, .lock, _ => .inside
    | .inside, .unlock, _ => .after
    | stage, _, _ => stage

/-- Calls that do not touch the state, nor depend on it. -/
def Untouching (effect : Effect ο σ) (free : ι → Prop) : Prop :=
  ∀ i, free i → ∀ s answer s', effect i s answer s' → s' = s ∧ ∀ t, effect i t answer t

/-! ## A client alone -/

/-- What the calls may answer, and do, to a client that is alone: it never waits. -/
def alone (effect : Effect ο σ) : Effect (Call.Answer ο) σ
  | .lock, s, _, t => s = t
  | .unlock, s, _, t => s = t
  | .inner i, s, answer, t => effect i s answer t

/-- Work on the state while holding the mutex. -/
def withLock (p : Program ο α) : Program (Call.Answer ο) α := do
  lock
  let a ← p.translate inner
  unlock
  return a

section

variable {effect : Effect ο σ} {free : ι → Prop} {s t : σ}

/-- A call of another kind, alone. -/
@[simp] lemma runs_inner {i : ι} {answer : ο i} :
    Runs (alone effect) (inner i) s answer t ↔ effect i s answer t := runs_request

/-- Work under the mutex, alone. -/
@[simp] lemma runs_withLock {p : Program ο α} {a : α} :
    Runs (alone effect) (withLock p) s a t ↔ Runs effect p s a t := by
  have htranslate {u v : σ} {b : α} :
      Runs (alone effect) (p.translate inner) u b v ↔ Runs effect p u b v :=
    runs_translate fun _ _ _ _ => runs_inner
  simp [withLock, lock, unlock, alone, htranslate]

/-- Work under the mutex is in order. -/
lemma follows_withLock (p : Program ο α) :
    (withLock p).Follows (discipline free) .before fun _ stage => stage = .after := by
  have hinside : (p.translate inner).Follows (discipline free) .inside
      fun _ stage => stage = .inside := by
    induction p with
    | pure a => rfl
    | call i next ih => exact ⟨trivial, fun answer => ih answer⟩
  refine ⟨trivial, fun _ => hinside.bind ?_⟩
  rintro a _ rfl
  exact ⟨trivial, fun _ => rfl⟩

end

/-! ## The clients together -/

section

variable [DecidableEq κ] {effect : Effect ο σ} {free : ι → Prop}
  {start clients : Clients (Call.Answer ο) α κ (Guarded κ σ)}
  {events : List (Event (Call.Answer ο) κ (Guarded κ σ))} {post : κ → α → Stage → Prop}

/-- How far a client is after the events. -/
abbrev stageOf (free : ι → Prop) (client : κ)
    (events : List (Event (Call.Answer ο) κ (Guarded κ σ))) : Stage :=
  (discipline free).after client .before events

/-- What holds of a client throughout a run. If it has not taken the mutex yet, it will do from any
state what it would have done from the start; if it holds the mutex, it will do from the state as
it is what it would have done from the state in which it took the mutex. -/
def Keeps (effect : Effect ο σ) (program rest : Program (Call.Answer ο) α)
    (shared : Guarded κ σ) (client : κ) : Stage → Prop
  | .before => shared.owner ≠ some client ∧
    ∀ s b t, Runs (alone effect) rest s b t → Runs (alone effect) program s b t
  | .inside => shared.owner = some client ∧
    ∀ b t, Runs (alone effect) rest shared.value b t →
      Runs (alone effect) program shared.settled b t
  | .after => shared.owner ≠ some client

/-- How far the clients are after one more call. -/
lemma stageOf_append (client : κ) (events : List (Event (Call.Answer ο) κ (Guarded κ σ)))
    (event : Event (Call.Answer ο) κ (Guarded κ σ)) :
    stageOf free client (events ++ [event]) =
      if event.client = client then
        (discipline free).next (stageOf free client events) event.call event.answer
      else stageOf free client events :=
  Discipline.after_append_singleton ..

omit [DecidableEq κ] in
/-- A call keeps what holds of its client.

**Proof sketch.** By cases on the call and on the stage of its client. A lock begins the critical
section in the settled state; an inner call of the critical section takes the program one step on;
outside of it only calls are allowed that leave the state alone. -/
lemma Keeps.advance {client : κ} {stage : Stage} {program : Program (Call.Answer ο) α} {i : Call ι}
    {rest : Call.Answer ο i → Program (Call.Answer ο) α} {answer : Call.Answer ο i}
    {s s' : Guarded κ σ} (h : Keeps effect program (.call i rest) s client stage)
    (hsettled : s.owner = none → s.value = s.settled)
    (hallowed : (discipline (ο := ο) free).allows stage i)
    (henv : environment effect client i s answer s') (huntouching : Untouching effect free) :
    Keeps effect program (rest answer) s' client ((discipline free).next stage i answer) := by
  cases henv with
  | lock hfree =>
    cases stage with
    | before =>
      refine ⟨rfl, fun b t hruns => h.2 _ b t ?_⟩
      rw [← hsettled hfree]
      exact ⟨_, _, rfl, hruns⟩
    | inside => exact hallowed.elim
    | after => exact hallowed.elim
  | unlock hown =>
    cases stage with
    | before => exact hallowed.elim
    | inside => exact nofun
    | after => exact hallowed.elim
  | inner heffect =>
    cases stage with
    | before =>
      refine ⟨h.1, fun s' b t hruns => h.2 s' b t ⟨_, s', ?_, hruns⟩⟩
      exact (huntouching _ hallowed _ _ _ heffect).2 s'
    | inside => exact ⟨h.1, fun b t hruns => h.2 b t ⟨_, _, heffect, hruns⟩⟩
    | after => exact hallowed.elim

omit [DecidableEq κ] in
/-- A call keeps what holds of the other clients: it does not change the state unless its client
holds the mutex, and then no other client does.

**Proof sketch.** A lock, an unlock and a call of a critical section are made by the owner of the
mutex, so the other client is not in its critical section; any other call leaves the state alone. -/
lemma Keeps.other {client other : κ} (hne : other ≠ client) {stage stage' : Stage}
    {program rest : Program (Call.Answer ο) α} {i : Call ι} {answer : Call.Answer ο i}
    {s s' : Guarded κ σ} (h : Keeps effect program rest s other stage)
    (hclient : stage' = .inside → s.owner = some client)
    (hallowed : (discipline (ο := ο) free).allows stage' i)
    (henv : environment effect client i s answer s') (huntouching : Untouching effect free) :
    Keeps effect program rest s' other stage := by
  have howner : s'.owner = some other ↔ s.owner = some other := by
    cases henv with
    | lock hfree => simp [hfree, hne.symm]
    | unlock hown => simp [Guarded.free, hown, hne.symm]
    | inner heffect => exact .rfl
  cases stage with
  | before => exact ⟨mt howner.mp h.1, h.2⟩
  | after => exact mt howner.mp h
  | inside =>
    have hown := h.1
    refine ⟨howner.mpr hown, fun b t hruns => ?_⟩
    have hnot : s.owner ≠ some client := by
      rw [hown]
      exact fun heq => hne (Option.some.inj heq)
    cases henv with
    | lock hfree => rw [hfree] at hown; cases hown
    | unlock hown' => exact absurd hown' hnot
    | @inner _ _ i answer value heffect =>
      cases stage' with
      | before =>
        obtain ⟨rfl, -⟩ := huntouching _ hallowed _ _ _ heffect
        exact h.2 b t hruns
      | inside => exact absurd (hclient rfl) hnot
      | after => exact hallowed.elim

omit [DecidableEq κ] in
/-- The mutex is released in the state that it was released in.

**Proof sketch.** A lock takes the mutex and an unlock settles the value. Nobody is in a critical
section while the mutex is free, and the other calls leave the value alone. -/
lemma settled_step {client : κ} {i : Call ι} {answer : Call.Answer ο i} {s s' : Guarded κ σ}
    {stage : Stage} (hsettled : s.owner = none → s.value = s.settled)
    (hclient : stage = .inside → s.owner = some client)
    (hallowed : (discipline (ο := ο) free).allows stage i)
    (henv : environment effect client i s answer s') (huntouching : Untouching effect free) :
    s'.owner = none → s'.value = s'.settled := by
  intro hnone
  cases henv with
  | lock hfree => cases hnone
  | unlock hown => rfl
  | inner heffect =>
    cases stage with
    | before =>
      obtain ⟨rfl, -⟩ := huntouching _ hallowed _ _ _ heffect
      exact hsettled hnone
    | inside => rw [hclient rfl] at hnone; cases hnone
    | after => exact hallowed.elim

/-- The clients are in order throughout a run.

**Proof sketch.** Induction on the run. A call keeps what holds of its client (`Keeps.advance`) and
of the others (`Keeps.other`). -/
lemma keeps (h : Interleaving (environment effect) start events clients) {s₀ : σ}
    (hstart : start.shared = .free s₀) (huntouching : Untouching effect free)
    (hfollows : ∀ client,
      (start.programs client).Follows (discipline free) .before (post client)) :
    (clients.shared.owner = none → clients.shared.value = clients.shared.settled) ∧
      ∀ client, Keeps effect (start.programs client) (clients.programs client) clients.shared client
        (stageOf free client events) := by
  induction h with
  | start =>
    rw [hstart]
    exact ⟨fun _ => rfl, fun client => ⟨nofun, fun _ _ _ hruns => hruns⟩⟩
  | @step events clients mover i rest answer shared h hmover henv ih =>
    obtain ⟨hsettled, hkeeps⟩ := ih
    have hallowed : (discipline (ο := ο) free).allows (stageOf free mover events) i := by
      have hrest := h.follows (hfollows mover)
      rw [hmover] at hrest
      exact hrest.1
    have hclient : stageOf free mover events = .inside → clients.shared.owner = some mover := by
      intro hstage
      have hmoverKeeps := hkeeps mover
      rw [hstage] at hmoverKeeps
      exact hmoverKeeps.1
    refine ⟨settled_step hsettled hclient hallowed henv huntouching, fun client => ?_⟩
    rw [stageOf_append]
    by_cases hne : client = mover
    · subst hne
      simp only [Clients.advance, Function.update_self, if_true]
      have hmoverKeeps := hkeeps client
      rw [hmover] at hmoverKeeps
      exact hmoverKeeps.advance hsettled hallowed henv huntouching
    · simp only [Clients.advance, Function.update_of_ne hne, if_neg (Ne.symm hne)]
      exact (hkeeps client).other hne hclient hallowed henv huntouching

/-- A client that is past its critical section has released the mutex.

**Proof sketch.** By induction on the events, from the last one: it releases the mutex, or the
client was past its critical section before it. -/
lemma exists_unlock_of_after {client : κ} (h : stageOf free client events = .after) :
    ∃ event ∈ events, event.call.releases ∧ event.client = client := by
  induction events using List.reverseRecOn with
  | nil => cases h
  | append_singleton events event ih =>
    rw [stageOf_append] at h
    by_cases hlast : event.client = client ∧ event.call.releases
    · exact ⟨event, by simp, hlast.2, hlast.1⟩
    · have hearlier : stageOf free client events = .after := by
        obtain ⟨mover, call, answer, s, s'⟩ := event
        split at h
        · next hclient =>
          have hkept : call.releases = false := by
            simpa using fun hreleases => hlast ⟨hclient, hreleases⟩
          cases call <;> cases hstage : stageOf free client events <;>
            simp_all [discipline, Call.releases]
        · exact h
      obtain ⟨event', hevent, hpoint⟩ := ih hearlier
      exact ⟨event', List.mem_append_left _ hevent, hpoint⟩

omit [DecidableEq κ] in
/-- What is left of a client that may only release the mutex, or is past its critical section. -/
lemma pure_of_follows_after {p : Program (Call.Answer ο) α} {post : α → Stage → Prop}
    (h : p.Follows (discipline free) .after post) : ∃ a, p = .pure a ∧ post a .after := by
  cases p with
  | pure a => exact ⟨a, rfl, h⟩
  | call i rest => cases i <;> exact h.1.elim

/-- A client that releases the mutex is done, and has done what it does alone from the state in
which the mutex was released before.

**Proof sketch.** Before its unlock the client is in its critical section, and what it has done so
far it has done alone since the mutex was settled (`keeps`). After the unlock it makes no call any
more, so it is done. -/
theorem runs_of_unlock {before after : List (Event (Call.Answer ο) κ (Guarded κ σ))}
    {event : Event (Call.Answer ο) κ (Guarded κ σ)}
    (h : Interleaving (environment effect) start (before ++ event :: after) clients) {s₀ : σ}
    (hstart : start.shared = .free s₀) (huntouching : Untouching effect free)
    (hfollows : ∀ client,
      (start.programs client).Follows (discipline free) .before (post client))
    (hevent : event.call.releases) :
    ∃ a, clients.programs event.client = .pure a ∧ post event.client a .after ∧
      Runs (alone effect) (start.programs event.client) event.before.settled a event.after.settled ∧
      ∀ later ∈ after, later.client ≠ event.client := by
  obtain ⟨client, call, answer, s, s'⟩ := event
  cases call with
  | lock | inner => cases hevent
  | unlock =>
    obtain ⟨middle, rest, hbefore, hshared, hmiddle, henv, hafter⟩ := h.split rfl
    obtain rfl : middle.shared = s := hshared
    obtain rfl : s' = .free middle.shared.value := henv.eq_free rfl
    have hrest := hbefore.follows (hfollows client)
    have hkeeps := (keeps hbefore hstart huntouching hfollows).2 client
    rw [hmiddle] at hrest hkeeps
    cases hstage : (discipline free).after client .before before with
    | before | after =>
      rw [hstage] at hrest
      exact hrest.1.elim
    | inside =>
      rw [stageOf, hstage] at hkeeps
      rw [hstage] at hrest
      obtain ⟨a, hpure, hpost⟩ := pure_of_follows_after (hrest.2 answer)
      obtain ⟨hdone, hsilent⟩ := hafter.of_done ((Function.update_self ..).trans hpure)
      refine ⟨a, hdone, hpost, hkeeps.2 a _ ⟨answer, _, rfl, ?_⟩, hsilent⟩
      rw [hpure]
      exact ⟨rfl, rfl⟩

/-- A client releases the mutex once. -/
lemma releases_pairwise (h : Interleaving (environment effect) start events clients) {s₀ : σ}
    (hstart : start.shared = .free s₀) (huntouching : Untouching effect free)
    (hfollows : ∀ client,
      (start.programs client).Follows (discipline free) .before (post client)) :
    events.Pairwise fun event event' =>
      event.call.releases → event'.call.releases → event.client ≠ event'.client := by
  refine List.pairwise_iff_forall_sublist.mpr fun horder hevent _ => ?_
  obtain ⟨early, late, rfl, hearly, hlate⟩ := List.cons_sublist_iff.mp horder
  obtain ⟨before, between, rfl⟩ := List.append_of_mem hearly
  rw [List.append_assoc, List.cons_append] at h
  obtain ⟨-, -, -, -, hsilent⟩ := runs_of_unlock h hstart huntouching hfollows hevent
  exact (hsilent _ (List.mem_append_right _ (List.singleton_sublist.mp hlate))).symm

/-- **The clients take effect when they release the mutex.** A machine that serves, in the order
in which the mutex was released, what the clients ask for gives the answers that were given.

**Proof sketch.** Between two releases the mutex has at most one owner, and only the owner moves
the state (`keeps`). So the owner has done what it does alone (`runs_of_unlock`). -/
theorem linearizes (machine : Machine σ ε ρ) (Requests : κ → ε → Prop) (Agrees : α → ρ → Prop)
    {Answered : κ → α → Prop}
    (h : Interleaving (environment effect) start events clients) {s₀ : σ}
    (hstart : start.shared = .free s₀) (huntouching : Untouching effect free)
    (hfollows : ∀ client, (start.programs client).Follows (discipline free) .before fun a stage =>
      stage = .after ∧ Answered client a ∨ stage = .before ∧ ¬Answered client a)
    (hrequest : ∀ client, ∃ e, Requests client e)
    (hserve : ∀ client t a s, Runs (alone effect) (start.programs client) t a s →
      Answered client a →
      ∃ e, Requests client e ∧ Agrees a (machine.step e t).1 ∧ (machine.step e t).2 = s) :
    ∃ requests : κ → ε,
      Linearizes machine s₀ requests Answered Agrees events clients
        (events.filter fun event => event.call.releases) ∧
      clients.shared.settled = machine.final
        (requested requests (events.filter fun event => event.call.releases)) s₀ ∧
      ∀ client, Requests client (requests client) := by
  have honce := releases_pairwise h hstart huntouching hfollows
  have hclients : ((events.filter fun event => event.call.releases).map Event.client).Nodup := by
    rw [List.nodup_iff_pairwise_ne, List.pairwise_map, List.pairwise_filter]
    exact honce
  -- what a client that releases the mutex has asked for
  have hentry (client : κ) : ∃ e, Requests client e ∧ ∀ event ∈ events, event.call.releases →
      event.client = client → ∃ a, clients.programs event.client = .pure a ∧
        Answered event.client a ∧ Agrees a (machine.step e event.before.settled).1 ∧
        (machine.step e event.before.settled).2 = event.after.settled := by
    by_cases hreleased : ∃ event ∈ events, event.call.releases ∧ event.client = client
    · obtain ⟨event, hmem, hevent, rfl⟩ := hreleased
      obtain ⟨before, after, hsplit⟩ := List.append_of_mem hmem
      obtain ⟨a, hdone, hpost, hruns, -⟩ :=
        runs_of_unlock (hsplit ▸ h) hstart huntouching hfollows hevent
      have hanswered : Answered event.client a := by
        rcases hpost with ⟨-, hanswered⟩ | ⟨hstage, -⟩
        · exact hanswered
        · cases hstage
      obtain ⟨e, hrequests, hagrees, hstep⟩ := hserve _ _ _ _ hruns hanswered
      refine ⟨e, hrequests, fun event' hmem' hevent' hclient => ?_⟩
      obtain rfl := List.inj_on_of_nodup_map hclients
        (List.mem_filter.mpr ⟨hmem', hevent'⟩)
        (List.mem_filter.mpr ⟨hmem, hevent⟩) hclient
      exact ⟨a, hdone, hanswered, hagrees, hstep⟩
    · obtain ⟨e, hrequests⟩ := hrequest client
      exact ⟨e, hrequests, fun event hmem hevent hclient =>
        absurd ⟨event, hmem, hevent, hclient⟩ hreleased⟩
  choose requests hrequests hpoints using hentry
  have hlinearizes : Linearizes machine s₀ requests Answered Agrees events clients
        (events.filter fun event => event.call.releases) ∧
      clients.shared.settled = machine.final
        (requested requests (events.filter fun event => event.call.releases)) s₀ := by
    have hfilter : (events.filter fun event => event.call.releases) =
        events.filter fun event => decide (event.call.releases = true) := by simp
    rw [hfilter]
    refine h.linearizes_filter (R := fun s t => s.settled = t) (t := s₀) ?_ ?_ ?_ ?_ honce
    · rw [hstart]
      rfl
    · intro before event after hsplit hevent
      obtain ⟨a, hdone, hanswered, hagrees, hstep⟩ :=
        hpoints event.client event (by simp [hsplit]) hevent rfl
      refine ⟨a, hdone, hanswered, ?_⟩
      rintro t rfl
      exact ⟨hagrees, hstep.symm⟩
    · rintro before event after hsplit hevent t rfl
      obtain ⟨-, -, -, -, -, henv, -⟩ := h.split hsplit
      exact henv.settled_eq hevent
    · intro client a hdone hanswered
      have hstage := h.follows (hfollows client)
      rw [hdone] at hstage
      rcases hstage with ⟨hafter, -⟩ | ⟨-, hnot⟩
      · exact exists_unlock_of_after hafter
      · exact absurd hanswered hnot
  exact ⟨requests, hlinearizes.1, hlinearizes.2, hrequests⟩

/-! ## No deadlock -/

/-- Every call is answered in every state. -/
def Answers (effect : Effect ο σ) : Prop := ∀ i s, ∃ answer s', effect i s answer s'

/-- The client can go on, alone, until it is done and the mutex is free. -/
def CanFinish (effect : Effect ο σ) (clients : Clients (Call.Answer ο) α κ (Guarded κ σ))
    (client : κ) : Prop :=
  ∃ events clients' a, Interleaving (environment effect) clients events clients' ∧
    clients'.programs client = .pure a ∧ clients'.shared.owner = none ∧
    ∀ other, other ≠ client → clients'.programs other = clients.programs other

/-- A client that can finish after one more call can finish. -/
lemma CanFinish.step {client : κ} {i : Call ι}
    {rest : Call.Answer ο i → Program (Call.Answer ο) α} {answer : Call.Answer ο i}
    {shared : Guarded κ σ} (hclient : clients.programs client = .call i rest)
    (henv : environment effect client i clients.shared answer shared)
    (h : CanFinish effect (clients.advance client (rest answer) shared) client) :
    CanFinish effect clients client := by
  obtain ⟨events, clients', a, hrun, hdone, hfree, hothers⟩ := h
  refine ⟨_, clients', a, (Interleaving.start.step hclient henv).trans hrun, hdone, hfree,
    fun other hne => ?_⟩
  rw [hothers other hne]
  exact Function.update_of_ne hne ..

/-- The owner of the mutex can finish.

**Proof sketch.** Induction on its program. -/
lemma canFinish_of_owner {client : κ} (hanswers : Answers effect) {post : α → Stage → Prop}
    (hpost : ∀ a, ¬post a .inside) {p : Program (Call.Answer ο) α}
    (hfollows : p.Follows (discipline free) .inside post)
    {clients : Clients (Call.Answer ο) α κ (Guarded κ σ)} (hclient : clients.programs client = p)
    (hown : clients.shared.owner = some client) : CanFinish effect clients client := by
  induction p generalizing clients with
  | pure a => exact absurd hfollows (hpost a)
  | call i rest ih =>
    cases i with
    | lock => exact hfollows.1.elim
    | unlock =>
      obtain ⟨a, hpure, -⟩ := pure_of_follows_after (hfollows.2 ())
      refine .step hclient (.unlock hown) ⟨[], _, a, .start, ?_, rfl, fun _ _ => rfl⟩
      exact (Function.update_self ..).trans hpure
    | inner i =>
      obtain ⟨answer, value, heffect⟩ := hanswers i clients.shared.value
      exact .step hclient (.inner heffect)
        (ih answer (hfollows.2 answer) (Function.update_self ..) hown)

/-- A client can finish when nobody owns the mutex.

**Proof sketch.** Induction on its program, up to the call that takes the mutex. -/
lemma canFinish_of_free {client : κ} (hanswers : Answers effect) {post : α → Stage → Prop}
    (hpost : ∀ a, ¬post a .inside) {p : Program (Call.Answer ο) α} {stage : Stage}
    (hstage : stage ≠ .inside) (hfollows : p.Follows (discipline free) stage post)
    {clients : Clients (Call.Answer ο) α κ (Guarded κ σ)} (hclient : clients.programs client = p)
    (hfree : clients.shared.owner = none) : CanFinish effect clients client := by
  induction p generalizing clients with
  | pure a => exact ⟨[], clients, a, .start, hclient, hfree, fun _ _ => rfl⟩
  | call i rest ih =>
    cases stage with
    | inside => exact absurd rfl hstage
    | after => cases i <;> exact hfollows.1.elim
    | before =>
      cases i with
      | unlock => exact hfollows.1.elim
      | lock =>
        exact .step hclient (.lock hfree)
          (canFinish_of_owner hanswers hpost (hfollows.2 ()) (Function.update_self ..) rfl)
      | inner i =>
        obtain ⟨answer, value, heffect⟩ := hanswers i clients.shared.value
        exact .step hclient (.inner heffect)
          (ih answer (hfollows.2 answer) (Function.update_self ..) hfree)

omit [DecidableEq κ] in
/-- A client that is done is not in its critical section. -/
lemma exists_stage_of_done {client : κ} (hpost : ∀ client a, ¬post client a .inside) {a : α}
    {p : Program (Call.Answer ο) α} (hdone : p = .pure a) {stage : Stage}
    (hfollows : p.Follows (discipline free) stage (post client)) :
    ∃ stage, stage ≠ .inside ∧ p.Follows (discipline free) stage (post client) := by
  refine ⟨stage, ?_, hfollows⟩
  rintro rfl
  rw [hdone] at hfollows
  exact hpost client a hfollows

/-- When nobody owns the mutex, any of the clients can finish, one after the other.

**Proof sketch.** By induction on the clients: the first one finishes (`canFinish_of_free`), which
leaves the mutex free and the other programs as they were. -/
lemma exists_finished (hanswers : Answers effect) (hpost : ∀ client a, ¬post client a .inside)
    (order : List κ) {clients : Clients (Call.Answer ο) α κ (Guarded κ σ)}
    (hfollows : ∀ client, ∃ stage, stage ≠ .inside ∧
      (clients.programs client).Follows (discipline free) stage (post client))
    (hfree : clients.shared.owner = none) :
    ∃ events clients', Interleaving (environment effect) clients events clients' ∧
      ∀ client ∈ order, ∃ a, clients'.programs client = .pure a := by
  induction order generalizing clients with
  | nil => exact ⟨[], clients, .start, nofun⟩
  | cons client order ih =>
    obtain ⟨stage, hstage, hclient⟩ := hfollows client
    obtain ⟨events, middle, a, hrun, hdone, hfree', hothers⟩ :=
      canFinish_of_free hanswers (hpost client) hstage hclient rfl hfree
    have hfollows' (other : κ) : ∃ stage, stage ≠ .inside ∧
        (middle.programs other).Follows (discipline free) stage (post other) := by
      by_cases hne : other = client
      · subst hne
        exact exists_stage_of_done hpost hdone (hrun.follows hclient)
      · rw [hothers other hne]
        exact hfollows other
    obtain ⟨events', clients', hrun', hfinished⟩ := ih hfollows' hfree'
    refine ⟨events ++ events', clients', hrun.trans hrun', ?_⟩
    rintro other (_ | ⟨_, hother⟩)
    · exact ⟨a, (hrun'.of_done hdone).1⟩
    · exact hfinished other hother

/-- **No deadlock.** From any point of a run, any of the clients can all be done in the end.

**Proof sketch.** The owner of the mutex finishes first (`canFinish_of_owner`), and then one
client after the other (`canFinish_of_free`). -/
theorem no_deadlock (h : Interleaving (environment effect) start events clients) {s₀ : σ}
    (hstart : start.shared = .free s₀) (huntouching : Untouching effect free)
    (hfollows : ∀ client,
      (start.programs client).Follows (discipline free) .before (post client))
    (hpost : ∀ client a, ¬post client a .inside) (hanswers : Answers effect) (order : List κ) :
    ∃ events' clients', Interleaving (environment effect) start (events ++ events') clients' ∧
      ∀ client ∈ order, ∃ a, clients'.programs client = .pure a := by
  have hnow (client : κ) := h.follows (hfollows client)
  have hkeeps := (keeps h hstart huntouching hfollows).2
  have houtside {client : κ} (hown : clients.shared.owner ≠ some client) :
      stageOf free client events ≠ .inside := by
    intro hinside
    have hclient := hkeeps client
    rw [hinside] at hclient
    exact hown hclient.1
  cases howner : clients.shared.owner with
  | none =>
    obtain ⟨events', clients', hrun, hfinished⟩ := exists_finished hanswers hpost order
      (fun client => ⟨_, houtside (by rw [howner]; nofun), hnow client⟩) howner
    exact ⟨events', clients', h.trans hrun, hfinished⟩
  | some owner =>
    have hinside : (discipline free).after owner .before events = .inside := by
      have howns := hkeeps owner
      cases hstage : stageOf free owner events with
      | before => rw [hstage] at howns; exact absurd howner howns.1
      | after => rw [hstage] at howns; exact absurd howner howns
      | inside => exact hstage
    have hfollowing := hnow owner
    rw [hinside] at hfollowing
    obtain ⟨events₁, middle, a, hrun₁, hdone, hfree, hothers⟩ :=
      canFinish_of_owner hanswers (hpost owner) hfollowing rfl howner
    have hfollows' (other : κ) : ∃ stage, stage ≠ .inside ∧
        (middle.programs other).Follows (discipline free) stage (post other) := by
      by_cases hne : other = owner
      · subst hne
        exact exists_stage_of_done hpost hdone (hrun₁.follows (hnow other))
      · rw [hothers other hne]
        exact ⟨_, houtside (by rw [howner]; simpa using Ne.symm hne), hnow other⟩
    obtain ⟨events₂, clients', hrun₂, hfinished⟩ :=
      exists_finished hanswers hpost order hfollows' hfree
    exact ⟨events₁ ++ events₂, clients', h.trans (hrun₁.trans hrun₂), hfinished⟩

end

end Mutex
