import Mathlib.Data.List.Forall2
import Mathlib.Data.List.Induction
import Mathlib.Order.Defs.PartialOrder

set_option relaxedAutoImplicit false
set_option autoImplicit false

/-!
# Deterministic machines that answer every event

A `Machine` takes one event at a time, answers it and moves to a new state: a service whose
calls are serialised by a lock, run by an environment that picks the calls. The file collects
the induction principles over runs of any length.

## Main definitions

* `Machine.final`, `Machine.trace` — the state a run ends in, and the answers along it.
* `Machine.Reachable` — the states some run ends in.
* `Machine.Admissible` — the runs whose environment keeps a promise about every event.
* `Machine.Simulation` — a simulation between two machines fed the same events.

## Main results

* `Machine.final_invariant`, `Machine.trace_invariant`, `Machine.final_rel` — invariants, also of
  the trace, and monotone quantities.
* `Machine.exists_step_of_final` — what a run brings about, one of its events brings about.
* `Machine.Simulation.run` — a simulation relates the answers of whole runs.
* `Machine.run_filter`, `Machine.run_filter_rel` — if a view of the state is neither read nor
  written by the hidden events, hiding them changes nothing that is visible; the same for a
  relation between two machines.
-/

/-- A machine with states `σ`, events `ε` and answers `ρ`. -/
structure Machine (σ ε ρ : Type*) where
  /-- The answer to an event and the state after it. -/
  step : ε → σ → ρ × σ

namespace Machine

variable {σ ε ρ : Type*} (m : Machine σ ε ρ)

/-! ## Runs -/

/-- The state after the events `es`. -/
def final (es : List ε) (s : σ) : σ :=
  es.foldl (fun s e => (m.step e s).2) s

/-- The events `es`, each with its answer. -/
def trace : List ε → σ → List (ε × ρ)
  | [], _ => []
  | e :: es, s => (e, (m.step e s).1) :: trace es (m.step e s).2

/-- The empty run. -/
@[simp] lemma final_nil (s : σ) : m.final [] s = s := rfl

/-- A run, from its first event. -/
@[simp] lemma final_cons (e : ε) (es : List ε) (s : σ) :
    m.final (e :: es) s = m.final es (m.step e s).2 := rfl

/-- Two runs in a row. -/
@[simp] lemma final_append (es es' : List ε) (s : σ) :
    m.final (es ++ es') s = m.final es' (m.final es s) := by
  simp [final, List.foldl_append]

/-- Two traces in a row. -/
lemma trace_append (es es' : List ε) (s : σ) :
    m.trace (es ++ es') s = m.trace es s ++ m.trace es' (m.final es s) := by
  induction es generalizing s with
  | nil => rfl
  | cons e es ih => simp only [List.cons_append, trace, final_cons, ih]

/-- A trace is as long as its run. -/
@[simp] lemma length_trace (es : List ε) (s : σ) : (m.trace es s).length = es.length := by
  induction es generalizing s with
  | nil => rfl
  | cons e es ih => exact congrArg Nat.succ (ih _)

/-- An event of a trace was answered in the state the events before it led to.

**Proof sketch.** From left to right by induction on the events; from right to left the trace is
split at the event. -/
lemma mem_trace_iff {es : List ε} {s : σ} {e : ε} {r : ρ} :
    (e, r) ∈ m.trace es s ↔
      ∃ pre post, es = pre ++ e :: post ∧ r = (m.step e (m.final pre s)).1 := by
  constructor
  · intro h
    induction es generalizing s with
    | nil => simp [trace] at h
    | cons e' es ih =>
      rcases List.mem_cons.mp h with h | h
      · obtain ⟨rfl, rfl⟩ := Prod.mk.inj h
        exact ⟨[], es, rfl, rfl⟩
      · obtain ⟨pre, post, rfl, hr⟩ := ih h
        exact ⟨e' :: pre, post, rfl, hr⟩
  · rintro ⟨pre, post, rfl, rfl⟩
    rw [trace_append]
    exact List.mem_append_right _ (List.mem_cons_self ..)

/-- `s` is reachable from `s₀`. -/
def Reachable (s₀ s : σ) : Prop := ∃ es, m.final es s₀ = s

variable {m}

/-- The initial state is reachable. -/
lemma Reachable.refl (s₀ : σ) : m.Reachable s₀ s₀ := ⟨[], rfl⟩

/-- What a run reaches from a reachable state is reachable. -/
lemma Reachable.final {s₀ s : σ} (h : m.Reachable s₀ s) (es : List ε) :
    m.Reachable s₀ (m.final es s) := by
  obtain ⟨es', rfl⟩ := h
  exact ⟨es' ++ es, m.final_append es' es s₀⟩

/-! ## Invariants -/

/-- What every step preserves, every run preserves. -/
lemma final_invariant {I : σ → Prop} (hstep : ∀ e s, I s → I (m.step e s).2) (es : List ε) {s : σ}
    (h : I s) : I (m.final es s) := by
  induction es generalizing s with
  | nil => exact h
  | cons e es ih => exact ih (hstep e s h)

/-- An invariant of the initial state holds in every reachable state. -/
lemma Reachable.invariant {I : σ → Prop} {s₀ s : σ} (h : m.Reachable s₀ s)
    (hstep : ∀ e s, I s → I (m.step e s).2) (h₀ : I s₀) : I s := by
  obtain ⟨es, rfl⟩ := h
  exact final_invariant hstep es h₀

/-- What every step answered as `p` allows preserves, every run whose answers `p` allows
preserves. -/
lemma final_invariant_of_trace {I : σ → Prop} {p : ε → ρ → Prop}
    (hstep : ∀ e s, I s → p e (m.step e s).1 → I (m.step e s).2) {es : List ε} {s : σ}
    (hp : ∀ a ∈ m.trace es s, p a.1 a.2) (h : I s) : I (m.final es s) := by
  induction es generalizing s with
  | nil => exact h
  | cons e es ih =>
    have hfirst := hp (e, (m.step e s).1) (List.mem_cons_self ..)
    exact ih (fun a ha => hp a (List.mem_cons_of_mem _ ha)) (hstep e s h hfirst)

/-- What every event of the run preserves, in the state in which it arrives, the run preserves. -/
lemma final_invariant_of_events {I : σ → Prop} {es : List ε} {s : σ}
    (hstep : ∀ pre e post, es = pre ++ e :: post → I (m.final pre s) →
      I (m.step e (m.final pre s)).2) (h : I s) : I (m.final es s) := by
  induction es generalizing s with
  | nil => exact h
  | cons e es ih =>
    refine ih (fun pre e' post hes => ?_) (hstep [] e es rfl h)
    exact hstep (e :: pre) e' post (by rw [hes, List.cons_append])

/-- An invariant that also speaks of the trace so far.

**Proof sketch.** Induction on the events from the last one on. -/
lemma trace_invariant {I : List (ε × ρ) → σ → Prop} {s : σ} (h : I [] s)
    (hstep : ∀ past e s, I past s → I (past ++ [(e, (m.step e s).1)]) (m.step e s).2)
    (es : List ε) : I (m.trace es s) (m.final es s) := by
  induction es using List.reverseRecOn with
  | nil => exact h
  | append_singleton es e ih =>
    rw [trace_append, final_append]
    exact hstep _ e _ ih

/-- A reflexive and transitive relation that holds across every step holds across every run. -/
lemma final_rel {r : σ → σ → Prop} (hrefl : ∀ s, r s s) (htrans : ∀ s t u, r s t → r t u → r s u)
    (hstep : ∀ e s, r s (m.step e s).2) (es : List ε) (s : σ) : r s (m.final es s) := by
  induction es generalizing s with
  | nil => exact hrefl s
  | cons e es ih => exact htrans _ _ _ (hstep e s) (ih _)

/-- What does not hold before a run and holds after it was brought about by one of its events.

**Proof sketch.** Induction on the events. If the first event does not bring it about, the
induction hypothesis finds the event in the rest of the run. -/
lemma exists_step_of_final {P : σ → Prop} {es : List ε} {s : σ} (h₀ : ¬P s)
    (h : P (m.final es s)) :
    ∃ pre e post, es = pre ++ e :: post ∧ ¬P (m.final pre s) ∧ P (m.step e (m.final pre s)).2 := by
  induction es generalizing s with
  | nil => exact absurd h h₀
  | cons e es ih =>
    by_cases he : P (m.step e s).2
    · exact ⟨[], e, es, rfl, h₀, he⟩
    · obtain ⟨pre, e', post, rfl, hbefore, hafter⟩ := ih he h
      exact ⟨e :: pre, e', post, rfl, hbefore, hafter⟩

/-! ## Simulation -/

/-- The environment keeps its promise along the run: `guard i e s` holds of every event `e`,
delivered in state `s`, where `i` is what the environment remembers of the earlier events. -/
def Admissible {ι : Type*} (m : Machine σ ε ρ) (guard : ι → ε → σ → Prop) (next : ι → ε → ι) :
    ι → List ε → σ → Prop
  | _, [], _ => True
  | i, e :: es, s => guard i e s ∧ Admissible m guard next (next i e) es (m.step e s).2

/-- A promise about nothing is kept. -/
lemma Admissible.of_forall {ι : Type*} {guard : ι → ε → σ → Prop} {next : ι → ε → ι}
    (h : ∀ i e s, guard i e s) (i : ι) (es : List ε) (s : σ) :
    m.Admissible guard next i es s := by
  induction es generalizing i s with
  | nil => trivial
  | cons e es ih => exact ⟨h i e s, ih _ _⟩

/-- A promise that is kept at every event of the run is kept along the run. -/
lemma Admissible.of_splits {ι : Type*} {guard : ι → ε → σ → Prop} {next : ι → ε → ι} {i : ι}
    {es : List ε} {s : σ}
    (h : ∀ pre e post, es = pre ++ e :: post → guard (pre.foldl next i) e (m.final pre s)) :
    m.Admissible guard next i es s := by
  induction es generalizing i s with
  | nil => trivial
  | cons e es ih =>
    refine ⟨h [] e es rfl, ih fun pre e' post hes => ?_⟩
    exact h (e :: pre) e' post (by rw [hes, List.cons_append])

/-- Along an admissible run the promise holds of every event. -/
lemma Admissible.guard_of_split {ι : Type*} {guard : ι → ε → σ → Prop} {next : ι → ε → ι} {i : ι}
    {pre post : List ε} {e : ε} {s : σ} (h : m.Admissible guard next i (pre ++ e :: post) s) :
    guard (pre.foldl next i) e (m.final pre s) := by
  induction pre generalizing i s with
  | nil => exact h.1
  | cons e' pre ih => exact ih h.2

/-- A simulation of the machine `m` by the machine `n`, for environments that keep the promise
`guard`: related states give related answers and related states again. -/
structure Simulation {τ θ ι : Type*} (m : Machine σ ε ρ) (n : Machine τ ε θ) where
  /-- What the environment promises about an event. -/
  guard : ι → ε → σ → Prop
  /-- What the environment remembers. -/
  next : ι → ε → ι
  /-- The simulation relation. -/
  rel : ι → σ → τ → Prop
  /-- When two answers to an event count as the same. -/
  answers : ε → ρ → θ → Prop
  /-- Related states answer alike and stay related. -/
  step : ∀ i e s t, guard i e s → rel i s t →
    answers e (m.step e s).1 (n.step e t).1 ∧ rel (next i e) (m.step e s).2 (n.step e t).2

/-- A simulation relates the answers along whole runs: event by event, the two traces agree. -/
lemma Simulation.run {τ θ ι : Type*} {n : Machine τ ε θ} (S : Simulation (ι := ι) m n) (i : ι)
    (es : List ε) {s : σ} {t : τ} (hadm : m.Admissible S.guard S.next i es s) (h : S.rel i s t) :
    List.Forall₂ (fun a b => a.1 = b.1 ∧ S.answers a.1 a.2 b.2) (m.trace es s) (n.trace es t) := by
  induction es generalizing i s t with
  | nil => exact List.Forall₂.nil
  | cons e es ih =>
    obtain ⟨hguard, hadm⟩ := hadm
    obtain ⟨hans, hrel⟩ := S.step i e s t hguard h
    exact List.Forall₂.cons ⟨rfl, hans⟩ (ih _ hadm hrel)

/-! ## Hiding events -/

/-- Suppose that an event outside `visible` leaves the view of the state alone, and that the
answer to a visible event and the view after it depend only on the view before it. Then
dropping the hidden events changes neither the visible answers nor the final view.

**Proof sketch.** Induction on the events. A hidden event is dropped from the trace and keeps
the view; a visible one is answered alike and keeps the views equal. -/
lemma run_filter {ν : Type*} (view : σ → ν) (visible : ε → Bool)
    (hidden : ∀ e s, visible e = false → view (m.step e s).2 = view s)
    (isolated : ∀ e s t, visible e = true → view s = view t →
      (m.step e s).1 = (m.step e t).1 ∧ view (m.step e s).2 = view (m.step e t).2)
    (es : List ε) {s t : σ} (h : view s = view t) :
    ((m.trace es s).filter fun a => visible a.1) = m.trace (es.filter visible) t ∧
      view (m.final es s) = view (m.final (es.filter visible) t) := by
  induction es generalizing s t with
  | nil => exact ⟨rfl, h⟩
  | cons e es ih =>
    cases hv : visible e with
    | false =>
      have h' : view (m.step e s).2 = view t := (hidden e s hv).trans h
      simpa [trace, hv] using ih h'
    | true =>
      obtain ⟨hans, hview⟩ := isolated e s t hv h
      obtain ⟨htrace, hfinal⟩ := ih hview
      refine ⟨?_, by simpa [hv] using hfinal⟩
      simp only [trace, hv, List.filter_cons_of_pos, htrace, hans]

/-- Suppose that two machines are related, that an event outside `visible` keeps a state of the
first related to the state of the second, and that a visible event is answered alike and keeps
the states related. Then the visible answers of a run are those of the second machine, which is
not given the hidden events.

**Proof sketch.** Induction on the events, as for a simulation. A hidden event is dropped from
the trace and is a step of the first machine alone. -/
lemma run_filter_rel {τ θ ι : Type*} {n : Machine τ ε θ} {guard : ι → ε → σ → Prop}
    {next : ι → ε → ι} {rel : ι → σ → τ → Prop} {answers : ρ → θ → Prop} (visible : ε → Bool)
    (hidden : ∀ i e s t, visible e = false → guard i e s → rel i s t →
      rel (next i e) (m.step e s).2 t)
    (shown : ∀ i e s t, visible e = true → guard i e s → rel i s t →
      answers (m.step e s).1 (n.step e t).1 ∧ rel (next i e) (m.step e s).2 (n.step e t).2)
    (i : ι) (es : List ε) {s : σ} {t : τ} (hadm : m.Admissible guard next i es s)
    (h : rel i s t) :
    List.Forall₂ (fun a b => a.1 = b.1 ∧ answers a.2 b.2)
      ((m.trace es s).filter fun a => visible a.1) (n.trace (es.filter visible) t) := by
  induction es generalizing i s t with
  | nil => exact List.Forall₂.nil
  | cons e es ih =>
    obtain ⟨hguard, hadm⟩ := hadm
    cases hv : visible e with
    | false =>
      simp only [trace, List.filter_cons, hv, Bool.false_eq_true, if_false]
      exact ih _ hadm (hidden i e s t hv hguard h)
    | true =>
      obtain ⟨hans, hrel⟩ := shown i e s t hv hguard h
      simp only [trace, List.filter_cons, hv, if_true]
      exact List.Forall₂.cons ⟨rfl, hans⟩ (ih _ hadm hrel)

/-! ## Marked events -/

/-- The machine `m` on events that carry a mark, which it ignores. -/
def marked (m : Machine σ ε ρ) : Machine σ (ε × Bool) ρ where
  step e := m.step e.1

/-- The marks do not matter for where a run ends. -/
lemma final_marked (es : List (ε × Bool)) (s : σ) :
    m.marked.final es s = m.final (es.map Prod.fst) s := by
  induction es generalizing s with
  | nil => rfl
  | cons e es ih => exact ih _

end Machine
