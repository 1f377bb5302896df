import Mathlib.Data.List.Induction
import Mathlib.Logic.Function.Basic
import QTradeService.Library.Program

set_option relaxedAutoImplicit false
set_option autoImplicit false

/-!
# Programs that run side by side

Clients run programs on a state that they share. They make their calls one at a time and in any
order, and what a call answers may depend on the calls of the others. What a client can do is
known from its program all the same, as far as it is kept in a state of the client's own.

## Main definitions

* `Program.Discipline`, `Program.Follows` — which calls a program makes and in which order,
  whatever it is answered.
* `Program.Interleaving` — the runs of several programs.
* `Program.schedule`, `Program.scheduleReady` — the run in a given order on a given environment.

## Main results

* `Program.Interleaving.follows`, `Program.Interleaving.allows` — every client follows its
  discipline throughout.
* `Program.interleaving_schedule` — a schedule is a run.
-/

namespace Program

variable {ι : Type} {ο : ι → Type} {α β L κ σ : Type}

/-! ## Disciplines -/

/-- Which calls a client may make. What the client has done so far is summed up in a state of its
own, which every call moves. -/
structure Discipline (ο : ι → Type) (L : Type) where
  allows : L → ι → Prop
  next : L → (i : ι) → ο i → L

/-- From the client's state `l` on, the program makes allowed calls only, whatever they are
answered, and ends with a result and a state that satisfy `post`. -/
def Follows (p : Program ο α) (d : Discipline ο L) (l : L) (post : α → L → Prop) : Prop :=
  match p with
  | .pure a => post a l
  | .call i rest =>
    d.allows l i ∧ ∀ answer, (rest answer).Follows d (d.next l i answer) post

/-- All calls of the program are of a kind. -/
def Only (p : Program ο α) (kind : ι → Prop) : Prop :=
  match p with
  | .pure _ => True
  | .call i rest => kind i ∧ ∀ answer, (rest answer).Only kind

section

variable {d : Discipline ο L} {l : L}

/-- A program that is done. -/
lemma Follows.pure {a : α} {post : α → L → Prop} (h : post a l) :
    (Pure.pure a : Program ο α).Follows d l post := h

/-- One call. -/
lemma Follows.request {i : ι} {post : ο i → L → Prop} (hallows : d.allows l i)
    (hpost : ∀ answer, post answer (d.next l i answer)) :
    (Program.request i).Follows d l post := ⟨hallows, hpost⟩

/-- A weaker postcondition. -/
lemma Follows.mono {p : Program ο α} {post post' : α → L → Prop} (h : p.Follows d l post)
    (himp : ∀ a l', post a l' → post' a l') : p.Follows d l post' := by
  induction p generalizing l with
  | pure a => exact himp a l h
  | call i rest ih => exact ⟨h.1, fun answer => ih answer (h.2 answer)⟩

/-- Two programs in a row. -/
lemma Follows.bind {p : Program ο α} {f : α → Program ο β} {mid : α → L → Prop}
    {post : β → L → Prop} (hp : p.Follows d l mid)
    (hf : ∀ a l', mid a l' → (f a).Follows d l' post) : (p >>= f).Follows d l post := by
  show (p.bind f).Follows d l post
  induction p generalizing l with
  | pure a => exact hf a l hp
  | call i rest ih => exact ⟨hp.1, fun answer => ih answer (hp.2 answer)⟩

/-- A program whose result is mapped. -/
lemma Follows.map {p : Program ο α} {g : α → β} {post : β → L → Prop}
    (hp : p.Follows d l fun a => post (g a)) : (g <$> p).Follows d l post :=
  hp.bind fun _ _ h => h

/-- What is kept by the allowed calls holds throughout. -/
lemma Follows.invariant {p : Program ο α} {I : L → Prop} {post : α → L → Prop}
    (hp : p.Follows d l post) (hI : I l)
    (hnext : ∀ l i answer, I l → d.allows l i → I (d.next l i answer)) :
    p.Follows { d with allows := fun l i => d.allows l i ∧ I l } l
      fun a l' => post a l' ∧ I l' := by
  induction p generalizing l with
  | pure a => exact ⟨hp, hI⟩
  | call i rest ih =>
    exact ⟨⟨hp.1, hI⟩, fun answer => ih answer (hp.2 answer) (hnext l i answer hI hp.1)⟩

/-- A discipline that allows more and moves in the same way. -/
lemma Follows.weaken {p : Program ο α} {post : α → L → Prop} {allows : L → ι → Prop}
    (hp : p.Follows d l post) (hallows : ∀ l i, d.allows l i → allows l i) :
    p.Follows { d with allows := allows } l post := by
  induction p generalizing l with
  | pure a => exact hp
  | call i rest ih => exact ⟨hallows l i hp.1, fun answer => ih answer (hp.2 answer)⟩

/-- Calls that are allowed in a state and do not move it. -/
lemma Only.follows {p : Program ο α} {kind : ι → Prop} (hp : p.Only kind)
    (hallows : ∀ i, kind i → d.allows l i) (hnext : ∀ i, kind i → ∀ answer, d.next l i answer = l) :
    p.Follows d l fun _ l' => l' = l := by
  induction p with
  | pure a => rfl
  | call i rest ih =>
    refine ⟨hallows i hp.1, fun answer => ?_⟩
    rw [hnext i hp.1 answer]
    exact ih answer (hp.2 answer)

end

/-- Two programs of a kind in a row. -/
lemma Only.bind {p : Program ο α} {f : α → Program ο β} {kind : ι → Prop} (hp : p.Only kind)
    (hf : ∀ a, (f a).Only kind) : (p >>= f).Only kind := by
  show (p.bind f).Only kind
  induction p with
  | pure a => exact hf a
  | call i rest ih => exact ⟨hp.1, fun answer => ih answer (hp.2 answer)⟩

/-- One call of a kind. -/
lemma Only.request {i : ι} {kind : ι → Prop} (h : kind i) :
    (Program.request i : Program ο (ο i)).Only kind := ⟨h, fun _ => trivial⟩

/-! ## Runs -/

/-- Clients with what is left of their programs, and the state they share. -/
structure Clients (ο : ι → Type) (α κ σ : Type) where
  programs : κ → Program ο α
  shared : σ

/-- What the calls of the clients may answer, and do to the shared state. -/
abbrev Environment (ο : ι → Type) (κ σ : Type) := κ → (i : ι) → σ → ο i → σ → Prop

/-- A call in a run: who made it, its answer, and the shared state before and after. -/
structure Event (ο : ι → Type) (κ σ : Type) where
  client : κ
  call : ι
  answer : ο call
  before : σ
  after : σ

/-- The result of a client that is done. -/
def Clients.result (clients : Clients ο α κ σ) (client : κ) : Option α :=
  match clients.programs client with
  | .pure a => some a
  | .call _ _ => none

/-- A client has a result if it is done. -/
lemma Clients.result_eq_some {clients : Clients ο α κ σ} {client : κ} {a : α} :
    clients.result client = some a ↔ clients.programs client = .pure a := by
  unfold Clients.result
  cases clients.programs client with
  | pure b => simp
  | call i rest => simp

variable [DecidableEq κ]

/-- The clients after one of them has made its next call. -/
def Clients.advance (clients : Clients ο α κ σ) (client : κ) (rest : Program ο α) (shared : σ) :
    Clients ο α κ σ where
  programs := Function.update clients.programs client rest
  shared := shared

/-- The runs of the programs, with their events in order. -/
inductive Interleaving (env : Environment ο κ σ) (start : Clients ο α κ σ) :
    List (Event ο κ σ) → Clients ο α κ σ → Prop
  | start : Interleaving env start [] start
  | step {events : List (Event ο κ σ)} {clients : Clients ο α κ σ} {client : κ} {i : ι}
      {rest : ο i → Program ο α} {answer : ο i} {shared : σ}
      (h : Interleaving env start events clients)
      (hclient : clients.programs client = .call i rest)
      (henv : env client i clients.shared answer shared) :
      Interleaving env start (events ++ [⟨client, i, answer, clients.shared, shared⟩])
        (clients.advance client (rest answer) shared)

/-- The state of a client's own after the events. -/
def Discipline.after (d : Discipline ο L) (client : κ) (l : L) (events : List (Event ο κ σ)) : L :=
  events.foldl (fun l event =>
    if event.client = client then d.next l event.call event.answer else l) l

/-- One more event. -/
lemma Discipline.after_append_singleton (d : Discipline ο L) (client : κ) (l : L)
    (events : List (Event ο κ σ)) (event : Event ο κ σ) :
    d.after client l (events ++ [event]) =
      if event.client = client then d.next (d.after client l events) event.call event.answer
      else d.after client l events := by
  rw [Discipline.after, List.foldl_append]
  rfl

/-- Two runs in a row. -/
lemma Discipline.after_append (d : Discipline ο L) (client : κ) (l : L)
    (events events' : List (Event ο κ σ)) :
    d.after client l (events ++ events') = d.after client (d.after client l events) events' :=
  List.foldl_append

/-- A client that has made no call is where it was. -/
lemma Discipline.after_of_forall_ne (d : Discipline ο L) {client : κ} (l : L)
    {events : List (Event ο κ σ)} (h : ∀ event ∈ events, event.client ≠ client) :
    d.after client l events = l := by
  induction events with
  | nil => rfl
  | cons event events ih =>
    rw [Discipline.after, List.foldl_cons, if_neg (h event (List.mem_cons_self ..))]
    exact ih fun event hevent => h event (List.mem_cons_of_mem _ hevent)

/-- A client may make any calls; what is observed of them is recorded in order. -/
def record {τ : Type} (observe : (i : ι) → ο i → Option τ) : Discipline ο (List τ) where
  allows _ _ := True
  next seen i answer := seen ++ (observe i answer).toList

/-- What is recorded is kept, whatever a program does. -/
lemma follows_record {τ : Type} (observe : (i : ι) → ο i → Option τ) (p : Program ο α)
    (seen : List τ) :
    p.Follows (record observe) seen fun _ seen' => ∃ later, seen' = seen ++ later := by
  induction p generalizing seen with
  | pure a => exact ⟨[], (List.append_nil seen).symm⟩
  | call i rest ih =>
    refine ⟨trivial, fun answer => (ih answer _).mono fun _ seen' hlater => ?_⟩
    obtain ⟨later, rfl⟩ := hlater
    exact ⟨(observe i answer).toList ++ later, List.append_assoc ..⟩

/-- What is recorded of a client is what is observed of its calls. -/
lemma after_record {τ : Type} (observe : (i : ι) → ο i → Option τ) (client : κ) (seen : List τ)
    (events : List (Event ο κ σ)) :
    (record observe).after client seen events = seen ++ events.filterMap fun event =>
      if event.client = client then observe event.call event.answer else none := by
  induction events using List.reverseRecOn with
  | nil => simp [Discipline.after]
  | append_singleton events event ih =>
    rw [Discipline.after_append_singleton, ih, List.filterMap_append]
    by_cases hclient : event.client = client
    · cases hobserve : observe event.call event.answer <;> simp [hclient, hobserve, record]
    · simp [hclient]

/-- The last call that changed something of the shared state. -/
def lastChange {β : Type} [DecidableEq β] (f : σ → β) (events : List (Event ο κ σ)) :
    Option (Event ο κ σ) :=
  events.reverse.find? fun event => f event.before ≠ f event.after

namespace Interleaving

variable {env : Environment ο κ σ} {start clients : Clients ο α κ σ} {events : List (Event ο κ σ)}

/-- Two runs in a row. -/
lemma trans {middle : Clients ο α κ σ} {events' : List (Event ο κ σ)}
    (h : Interleaving env start events middle) (h' : Interleaving env middle events' clients) :
    Interleaving env start (events ++ events') clients := by
  induction h' with
  | start => rwa [List.append_nil]
  | step _ hclient henv ih =>
    rw [← List.append_assoc]
    exact ih.step hclient henv

/-- A client that follows a discipline at the start follows it throughout.

**Proof sketch.** By induction on the run. A call of the client leaves the rest of its program,
which follows the discipline in the next state; the other clients do not move it. -/
theorem follows {d : Discipline ο L} {client : κ} {l : L} {post : α → L → Prop}
    (h : Interleaving env start events clients)
    (hstart : (start.programs client).Follows d l post) :
    (clients.programs client).Follows d (d.after client l events) post := by
  induction h with
  | start => exact hstart
  | @step events clients mover i rest answer shared _ hclient _ ih =>
    rw [Discipline.after_append_singleton]
    by_cases hmover : mover = client
    · subst hmover
      rw [if_pos rfl]
      simp only [Clients.advance, Function.update_self]
      rw [hclient] at ih
      exact ih.2 answer
    · rw [if_neg hmover]
      simp only [Clients.advance, Function.update_of_ne (Ne.symm hmover)]
      exact ih

/-- The part of a run up to some event.

**Proof sketch.** By induction on the run. The event is the last one, or it lies in the run before
that. -/
lemma split {before after : List (Event ο κ σ)} {event : Event ο κ σ}
    (h : Interleaving env start events clients) (hevents : events = before ++ event :: after) :
    ∃ middle rest, Interleaving env start before middle ∧ middle.shared = event.before ∧
      middle.programs event.client = .call event.call rest ∧
      env event.client event.call event.before event.answer event.after ∧
      Interleaving env (middle.advance event.client (rest event.answer) event.after) after
        clients := by
  induction h generalizing after with
  | start => simp at hevents
  | @step events clients mover i rest answer shared h hclient henv ih =>
    rcases List.eq_nil_or_concat after with rfl | ⟨after, last, rfl⟩
    · obtain ⟨rfl, hlast⟩ := List.append_inj' hevents rfl
      obtain rfl := List.head_eq_of_cons_eq hlast
      exact ⟨clients, rest, h, rfl, hclient, henv, .start⟩
    · rw [List.concat_eq_append] at hevents ⊢
      have hsplit : events ++ [⟨mover, i, answer, clients.shared, shared⟩] =
          (before ++ event :: after) ++ [last] := by
        rw [hevents, List.append_assoc, List.cons_append]
      obtain ⟨hinit, hlast⟩ := List.append_inj' hsplit rfl
      obtain rfl := List.head_eq_of_cons_eq hlast
      obtain ⟨middle, rest', hbefore, hshared, hmiddle, henv', hafter⟩ := ih hinit
      exact ⟨middle, rest', hbefore, hshared, hmiddle, henv', hafter.step hclient henv⟩

/-- A run up to some event, and the rest of it. -/
lemma split_run {before after : List (Event ο κ σ)} {event : Event ο κ σ}
    (h : Interleaving env start (before ++ event :: after) clients) :
    ∃ middle, Interleaving env start before middle ∧ middle.shared = event.before ∧
      Interleaving env middle (event :: after) clients := by
  obtain ⟨middle, rest, hbefore, hshared, hmiddle, henv, hafter⟩ := h.split rfl
  refine ⟨middle, hbefore, hshared, ?_⟩
  rw [← hshared] at henv
  have hstart : Interleaving env middle [] middle := .start
  have hevent := hstart.step hmiddle henv
  rw [hshared] at hevent
  exact hevent.trans hafter

/-- Every call of a client that follows a discipline is an allowed one. -/
theorem allows {d : Discipline ο L} {l : L} {post : α → L → Prop}
    {before after : List (Event ο κ σ)} {event : Event ο κ σ}
    (h : Interleaving env start (before ++ event :: after) clients)
    (hstart : (start.programs event.client).Follows d l post) :
    d.allows (d.after event.client l before) event.call := by
  obtain ⟨middle, rest, hbefore, -, hmiddle, -⟩ := h.split rfl
  have hfollows := hbefore.follows hstart
  rw [hmiddle] at hfollows
  exact hfollows.1

/-- A client that is done makes no call and stays done.

**Proof sketch.** By induction on the run: only a client that is not done makes the next call. -/
lemma of_done {client : κ} {a : α} (h : Interleaving env start events clients)
    (hdone : start.programs client = .pure a) :
    clients.programs client = .pure a ∧ ∀ event ∈ events, event.client ≠ client := by
  induction h with
  | start => exact ⟨hdone, nofun⟩
  | @step events clients mover i rest answer shared _ hclient _ ih =>
    have hmover : mover ≠ client := by
      rintro rfl
      cases hclient.symm.trans ih.1
    refine ⟨(Function.update_of_ne hmover.symm ..).trans ih.1, fun event hevent => ?_⟩
    rcases List.mem_append.mp hevent with hevent | hevent
    · exact ih.2 event hevent
    · rw [List.mem_singleton.mp hevent]
      exact hmover

/-- What is not changed by any call is as it was at the start, and what is changed is as the last
change left it.

**Proof sketch.** By induction on the run. The next call changes the value and is the last change,
or it leaves the value and the last change as they were. -/
theorem eq_lastChange {β : Type} [DecidableEq β] (f : σ → β)
    (h : Interleaving env start events clients) :
    f clients.shared =
      ((lastChange f events).map fun event => f event.after).getD (f start.shared) := by
  induction h with
  | start => rfl
  | @step events clients mover i rest answer shared h hclient henv ih =>
    unfold lastChange at ih ⊢
    rw [List.reverse_append, List.reverse_singleton, List.singleton_append, List.find?_cons]
    by_cases hchange : f clients.shared = f shared
    · simp only [hchange, ne_eq, not_true_eq_false, decide_false]
      show f shared = _
      rw [← hchange]
      exact ih
    · simp only [ne_eq, hchange, not_false_eq_true, decide_true]
      rfl

/-- Before a call, what is changed is as the last change since an earlier call left it. -/
lemma eq_lastChange_between {β : Type} [DecidableEq β] (f : σ → β)
    {before between after : List (Event ο κ σ)} {first second : Event ο κ σ}
    (h : Interleaving env start (before ++ first :: (between ++ second :: after)) clients) :
    f second.before =
      ((lastChange f between).map fun event => f event.after).getD (f first.after) := by
  have hsplit : before ++ first :: (between ++ second :: after) =
      (before ++ first :: between) ++ second :: after := by simp
  obtain ⟨middle, -, hmiddle, hshared, -⟩ := h.split hsplit
  obtain ⟨middle', _, -, -, -, -, hrest⟩ := hmiddle.split rfl
  rw [← hshared]
  exact hrest.eq_lastChange f

end Interleaving

/-! ## Schedules -/

/-- The run in which the clients make their calls in the given order, answered as the handlers
say. A client that is done is passed over. -/
def schedule (handlers : κ → Handler ο σ) :
    List κ → Clients ο α κ σ → List (Event ο κ σ) × Clients ο α κ σ
  | [], clients => ([], clients)
  | client :: order, clients =>
    match clients.programs client with
    | .pure _ => schedule handlers order clients
    | .call i rest =>
      let answer := handlers client i clients.shared
      let run := schedule handlers order (clients.advance client (rest answer.1) answer.2)
      (⟨client, i, answer.1, clients.shared, answer.2⟩ :: run.1, run.2)

/-- A schedule is a run, if the handlers answer as the environment may. -/
theorem interleaving_schedule {env : Environment ο κ σ} {handlers : κ → Handler ο σ}
    (henv : ∀ client i s, env client i s (handlers client i s).1 (handlers client i s).2)
    (order : List κ) (clients : Clients ο α κ σ) :
    Interleaving env clients (schedule handlers order clients).1
      (schedule handlers order clients).2 := by
  induction order generalizing clients with
  | nil => exact .start
  | cons client order ih =>
    unfold schedule
    split
    · exact ih clients
    · next i rest hclient =>
      exact (Interleaving.start.step hclient (henv client i clients.shared)).trans (ih _)

/-- The run in which the clients make their calls in the given order. A client that is done, or
whose call has to wait, is passed over. -/
def scheduleReady (handlers : κ → (i : ι) → σ → Option (ο i × σ)) :
    List κ → Clients ο α κ σ → List (Event ο κ σ) × Clients ο α κ σ
  | [], clients => ([], clients)
  | client :: order, clients =>
    match clients.programs client with
    | .pure _ => scheduleReady handlers order clients
    | .call i rest =>
      match handlers client i clients.shared with
      | none => scheduleReady handlers order clients
      | some (answer, shared) =>
        let run := scheduleReady handlers order (clients.advance client (rest answer) shared)
        (⟨client, i, answer, clients.shared, shared⟩ :: run.1, run.2)

/-- A schedule in which clients wait is a run, if the handlers answer as the environment may.

**Proof sketch.** By induction on the order. A client that is done or has to wait is skipped, and
the others make one step. -/
theorem interleaving_scheduleReady {env : Environment ο κ σ}
    {handlers : κ → (i : ι) → σ → Option (ο i × σ)}
    (henv : ∀ client i s answer s', handlers client i s = some (answer, s') →
      env client i s answer s') (order : List κ) (clients : Clients ο α κ σ) :
    Interleaving env clients (scheduleReady handlers order clients).1
      (scheduleReady handlers order clients).2 := by
  induction order generalizing clients with
  | nil => exact .start
  | cons client order ih =>
    unfold scheduleReady
    split
    · exact ih clients
    · next i rest hclient =>
      split
      · exact ih clients
      · next answer shared hanswer =>
        exact (Interleaving.start.step hclient (henv _ _ _ _ _ hanswer)).trans (ih _)

end Program
