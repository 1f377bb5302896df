import QTradeService.Library.Interleaving
import QTradeService.Library.Machine

set_option relaxedAutoImplicit false
set_option autoImplicit false

/-!
# Calls side by side that take effect one at a time

Clients make a call each, in several steps, beside each other. Every call that is answered may
have taken effect at one of its own steps: a machine that serves the calls in the order of these
steps, one after the other, gives the same answers.

## Main definitions

* `Program.Linearizes` — the steps of a run at which the calls take effect.

## Main results

* `Program.Interleaving.linearizes_filter` — the steps that move a relation to the states of the
  machine are such steps.
* `Program.Linearizes.not_before` — a call that is over when another one begins takes effect
  before it.
-/

namespace Program

variable {ι : Type} {ο : ι → Type} {α κ σ τ ε ρ : Type}

/-- The calls whose steps the events are. -/
def requested (requests : κ → ε) (events : List (Event ο κ σ)) : List ε :=
  events.map fun event => requests event.client

/-- The calls take effect at the given steps of the run: a machine that serves them in this order
gives the answers that were given. -/
structure Linearizes (machine : Machine τ ε ρ) (t : τ) (requests : κ → ε)
    (Answered : κ → α → Prop) (Agrees : α → ρ → Prop) (events : List (Event ο κ σ))
    (clients : Clients ο α κ σ) (points : List (Event ο κ σ)) : Prop where
  sublist : points.Sublist events
  nodup : (points.map Event.client).Nodup
  mem : ∀ client, client ∈ points.map Event.client ↔
    ∃ a, clients.programs client = .pure a ∧ Answered client a
  agrees : List.Forall₂ (fun point entry => ∃ a, clients.programs point.client = .pure a ∧
    Agrees a entry.2) points (machine.trace (requested requests points) t)

section

variable {machine : Machine τ ε ρ} {t : τ} {requests : κ → ε} {Answered : κ → α → Prop}
  {Agrees : α → ρ → Prop} {events : List (Event ο κ σ)} {clients : Clients ο α κ σ}

/-- A call was answered as the machine answers it after the calls of the earlier points. -/
lemma Linearizes.agrees_of_split {points before after : List (Event ο κ σ)} {point : Event ο κ σ}
    (h : Linearizes machine t requests Answered Agrees events clients points)
    (hsplit : points = before ++ point :: after) :
    ∃ a, clients.programs point.client = .pure a ∧ Agrees a (machine.step
      (requests point.client) (machine.final (requested requests before) t)).1 := by
  have hagrees := h.agrees
  rw [hsplit, requested, List.map_append, Machine.trace_append] at hagrees
  have hdrop := List.forall₂_drop_append _ _ _ hagrees
  rw [Machine.length_trace, List.length_map, List.drop_left] at hdrop
  cases hdrop with
  | cons hpoint _ => exact hpoint

/-- A call that is over when another one begins takes effect before it.

**Proof sketch.** The points of the first part come before those of the second. The one of the first
call is not in the second part, where it makes no call, and that of the second call not in the
first. -/
theorem Linearizes.not_before {before after points : List (Event ο κ σ)} {first second : κ}
    (h : Linearizes machine t requests Answered Agrees (before ++ after) clients points)
    (hfirst : ∀ event ∈ after, event.client ≠ first)
    (hsecond : ∀ event ∈ before, event.client ≠ second) :
    ¬[second, first].Sublist (points.map Event.client) := by
  intro horder
  have hsublist := horder.trans (h.sublist.map Event.client)
  rw [List.map_append, List.sublist_append_iff] at hsublist
  obtain ⟨early, late, hsplit, hearly, hlate⟩ := hsublist
  have hfirst' : first ∉ late := by
    intro hmem
    obtain ⟨event, hevent, hclient⟩ := List.mem_map.mp (hlate.subset hmem)
    exact hfirst event hevent hclient
  have hsecond' : second ∉ early := by
    intro hmem
    obtain ⟨event, hevent, hclient⟩ := List.mem_map.mp (hearly.subset hmem)
    exact hsecond event hevent hclient
  match early, hsplit with
  | [], hsplit =>
    obtain rfl : [second, first] = late := hsplit
    exact hfirst' (List.mem_cons_of_mem _ (List.mem_singleton_self _))
  | client :: rest, hsplit =>
    refine hsecond' ?_
    rw [← (List.cons.inj hsplit).1]
    exact List.mem_cons_self ..

variable [DecidableEq κ] {env : Environment ο κ σ} {start : Clients ο α κ σ}
  {R : σ → τ → Prop} {Point : Event ο κ σ → Prop} [DecidablePred Point]

/-- The shared state follows the machine: a step that is a point of a call moves it as the machine
does, and the other steps do not move it.

**Proof sketch.** Induction on the run; its last step is a point or not. -/
lemma Interleaving.simulated {P : Event ο κ σ → ρ → Prop}
    (h : Interleaving env start events clients) (hstart : R start.shared t)
    (hpoint : ∀ before event after, events = before ++ event :: after → Point event →
      ∀ t', R event.before t' → P event (machine.step (requests event.client) t').1 ∧
        R event.after (machine.step (requests event.client) t').2)
    (hother : ∀ before event after, events = before ++ event :: after → ¬Point event →
      ∀ t', R event.before t' → R event.after t') :
    R clients.shared (machine.final (requested requests (events.filter Point)) t) ∧
      List.Forall₂ (fun point entry => P point entry.2) (events.filter Point)
        (machine.trace (requested requests (events.filter Point)) t) := by
  unfold requested
  induction h with
  | start => exact ⟨hstart, .nil⟩
  | @step events clients mover i rest answer shared _ _ _ ih =>
    have hlonger (before : List (Event ο κ σ)) (event last : Event ο κ σ)
        (after : List (Event ο κ σ)) (hsplit : events = before ++ event :: after) :
        events ++ [last] = before ++ event :: (after ++ [last]) := by
      rw [hsplit, List.append_assoc, List.cons_append]
    obtain ⟨hrel, hanswers⟩ := ih
      (fun before event after hsplit => hpoint before event _ (hlonger before event _ after hsplit))
      (fun before event after hsplit => hother before event _ (hlonger before event _ after hsplit))
    by_cases hlast : Point ⟨mover, i, answer, clients.shared, shared⟩
    · obtain ⟨hanswer, hrel'⟩ := hpoint events _ [] rfl hlast _ hrel
      rw [List.filter_append, List.filter_singleton, decide_eq_true hlast, cond_true,
        List.map_append, Machine.final_append, Machine.trace_append]
      exact ⟨hrel', List.rel_append hanswers (.cons hanswer .nil)⟩
    · rw [List.filter_append, List.filter_singleton, decide_eq_false hlast,
        cond_false, List.append_nil]
      exact ⟨hother events _ [] rfl hlast _ hrel, hanswers⟩

/-- Every answered call has one point, and the points move the shared state as the machine moves.
Then the calls take effect at their points.

**Proof sketch.** The machine follows the shared state from point to point (`simulated`). The points
of answered calls are their only ones, so each answer has its place in the order. -/
theorem Interleaving.linearizes_filter (h : Interleaving env start events clients)
    (hstart : R start.shared t)
    (hpoint : ∀ before event after, events = before ++ event :: after → Point event →
      ∃ a, clients.programs event.client = .pure a ∧ Answered event.client a ∧
        ∀ t', R event.before t' → Agrees a (machine.step (requests event.client) t').1 ∧
          R event.after (machine.step (requests event.client) t').2)
    (hother : ∀ before event after, events = before ++ event :: after → ¬Point event →
      ∀ t', R event.before t' → R event.after t')
    (hanswered : ∀ client a, clients.programs client = .pure a → Answered client a →
      ∃ event ∈ events, Point event ∧ event.client = client)
    (honce : events.Pairwise fun event event' => Point event → Point event' →
      event.client ≠ event'.client) :
    Linearizes machine t requests Answered Agrees events clients (events.filter Point) ∧
      R clients.shared (machine.final (requested requests (events.filter Point)) t) := by
  have hstep (before : List (Event ο κ σ)) (event : Event ο κ σ) (after : List (Event ο κ σ))
      (hsplit : events = before ++ event :: after) (hevent : Point event) (t' : τ)
      (hrel : R event.before t') :
      (∃ a, clients.programs event.client = .pure a ∧
        Agrees a (machine.step (requests event.client) t').1) ∧
        R event.after (machine.step (requests event.client) t').2 := by
    obtain ⟨a, hdone, -, hstep⟩ := hpoint before event after hsplit hevent
    exact ⟨⟨a, hdone, (hstep t' hrel).1⟩, (hstep t' hrel).2⟩
  obtain ⟨hrel, hanswers⟩ := h.simulated hstart (P := fun event r =>
    ∃ a, clients.programs event.client = .pure a ∧ Agrees a r) hstep hother
  refine ⟨⟨List.filter_sublist, ?_, fun client => ⟨?_, ?_⟩, hanswers⟩, hrel⟩
  · rw [List.nodup_iff_pairwise_ne, List.pairwise_map, List.pairwise_filter]
    exact honce.imp fun hne hevent hevent' =>
      hne (of_decide_eq_true hevent) (of_decide_eq_true hevent')
  · intro hmem
    obtain ⟨event, hevent, rfl⟩ := List.mem_map.mp hmem
    obtain ⟨hevent, hpointed⟩ := List.mem_filter.mp hevent
    obtain ⟨before, after, hsplit⟩ := List.append_of_mem hevent
    obtain ⟨a, hdone, hanswered, -⟩ := hpoint before event after hsplit
      (of_decide_eq_true hpointed)
    exact ⟨a, hdone, hanswered⟩
  · rintro ⟨a, hdone, hdone'⟩
    obtain ⟨event, hevent, hpointed, rfl⟩ := hanswered client a hdone hdone'
    exact List.mem_map.mpr ⟨event, List.mem_filter.mpr ⟨hevent, decide_eq_true hpointed⟩, rfl⟩

end

end Program
