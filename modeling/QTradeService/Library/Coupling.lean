import QTradeService.Library.Program

set_option relaxedAutoImplicit false
set_option autoImplicit false

/-!
# Two programs side by side

Two runs that make their calls in step. A coupling says which calls go together and how their
answers are related, as far as a stage that both runs have reached together. Programs that are
coupled call for call end with related results, on any two environments that answer as the
coupling says.

## Main definitions

* `Program.Coupling` — calls and answers that go together.
* `Program.Coupled` — the programs make their calls in step.

## Main results

* `Program.Coupled.bind` and the other rules.
* `Program.Coupled.run` — the runs of coupled programs.
-/

namespace Program

variable {ι : Type} {ο : ι → Type} {α β γ δ L σ τ : Type}

/-- Calls that go together at a stage, and answers that go together and lead to the next one. -/
structure Coupling (ο : ι → Type) (L : Type) where
  calls : L → ι → ι → Prop
  answers : L → (i j : ι) → ο i → ο j → L → Prop

/-- From the stage `l` on, the programs make calls that go together, as long as they are given
answers that go together, and end with results and a stage that satisfy `post`. -/
def Coupled (p : Program ο α) (q : Program ο β) (c : Coupling ο L) (l : L)
    (post : α → β → L → Prop) : Prop :=
  match p, q with
  | .pure a, .pure b => post a b l
  | .call i rest, .call j rest' =>
    c.calls l i j ∧ ∀ a b l', c.answers l i j a b l' → (rest a).Coupled (rest' b) c l' post
  | _, _ => False

section

variable {c : Coupling ο L} {l : L}

/-- Programs that are done. -/
lemma Coupled.pure {a : α} {b : β} {post : α → β → L → Prop} (h : post a b l) :
    (Pure.pure a : Program ο α).Coupled (Pure.pure b : Program ο β) c l post := h

/-- A call each. -/
lemma Coupled.request {i j : ι} {post : ο i → ο j → L → Prop} (hcalls : c.calls l i j)
    (hpost : ∀ a b l', c.answers l i j a b l' → post a b l') :
    (Program.request i : Program ο (ο i)).Coupled (Program.request j) c l post :=
  ⟨hcalls, hpost⟩

/-- A weaker postcondition. -/
lemma Coupled.mono {p : Program ο α} {q : Program ο β} {post post' : α → β → L → Prop}
    (h : p.Coupled q c l post) (himp : ∀ a b l', post a b l' → post' a b l') :
    p.Coupled q c l post' := by
  induction p generalizing q l with
  | pure a =>
    cases q with
    | pure b => exact himp a b l h
    | call j rest' => exact h
  | call i rest ih =>
    cases q with
    | pure b => exact h
    | call j rest' => exact ⟨h.1, fun a b l' hanswers => ih a (h.2 a b l' hanswers)⟩

/-- Two programs in a row. -/
lemma Coupled.bind {p : Program ο α} {q : Program ο β} {f : α → Program ο γ}
    {g : β → Program ο δ} {mid : α → β → L → Prop} {post : γ → δ → L → Prop}
    (h : p.Coupled q c l mid)
    (hrest : ∀ a b l', mid a b l' → (f a).Coupled (g b) c l' post) :
    (p >>= f).Coupled (q >>= g) c l post := by
  show (p.bind f).Coupled (q.bind g) c l post
  induction p generalizing q l with
  | pure a =>
    cases q with
    | pure b => exact hrest a b l h
    | call j rest' => exact h.elim
  | call i rest ih =>
    cases q with
    | pure b => exact h.elim
    | call j rest' => exact ⟨h.1, fun a b l' hanswers => ih a (h.2 a b l' hanswers)⟩

/-- Programs whose results are mapped. -/
lemma Coupled.map {p : Program ο α} {q : Program ο β} {f : α → γ} {g : β → δ}
    {post : γ → δ → L → Prop} (h : p.Coupled q c l fun a b => post (f a) (g b)) :
    (f <$> p).Coupled (g <$> q) c l post :=
  h.bind fun _ _ _ hpost => hpost

/-- Coupled programs, run on environments that answer as the coupling says, end with results that
satisfy the postcondition.

**Proof sketch.** Induction on the first program. The environments answer a pair of calls with
answers that go together, and stay related for the next stage. -/
theorem Coupled.run {h : Handler ο σ} {h' : Handler ο τ} {related : L → σ → τ → Prop}
    (hstep : ∀ l i j s t, c.calls l i j → related l s t →
      ∃ l', c.answers l i j (h i s).1 (h' j t).1 l' ∧ related l' (h i s).2 (h' j t).2)
    {p : Program ο α} {q : Program ο β} {post : α → β → L → Prop} (hcoupled : p.Coupled q c l post)
    {s : σ} {t : τ} (hrelated : related l s t) :
    ∃ l', post (p.run h s).1 (q.run h' t).1 l' ∧ related l' (p.run h s).2 (q.run h' t).2 := by
  induction p generalizing q l s t with
  | pure a =>
    cases q with
    | pure b => exact ⟨l, hcoupled, hrelated⟩
    | call j rest' => exact hcoupled.elim
  | call i rest ih =>
    cases q with
    | pure b => exact hcoupled.elim
    | call j rest' =>
      obtain ⟨l', hanswers, hrelated'⟩ := hstep l i j s t hcoupled.1 hrelated
      exact ih _ (hcoupled.2 _ _ l' hanswers) hrelated'

end

end Program
