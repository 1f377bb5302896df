import Mathlib.Logic.Basic

set_option relaxedAutoImplicit false
set_option autoImplicit false

/-!
# Programs that call an environment

A program computes, and now and then calls its environment and goes on with the answer: a client
of a database, of a network, of a clock. The program is a tree of calls, so it says which calls
are made in which order and nothing about what they do; a handler with a state of its own gives
them a meaning.

## Main definitions

* `Program` — programs, a monad; `Program.request` — the program that makes one call.
* `Program.Handler`, `Program.run` — what the calls do, and the run of a program.
* `Program.Runs` — the runs on an environment that may answer in several ways.
* `Program.translate` — the program that makes other calls.
* `Program.Ensures` — a postcondition of a run.

## Main results

* `Program.run_bind`, `Program.runs_bind` — a run of two programs in a row.
* `Program.Ensures.bind`, `Program.Ensures.request` — the rules for postconditions.
-/

/-- Programs with calls `ι`, answered by values of `ο i`, and results `α`. -/
inductive Program {ι : Type} (ο : ι → Type) (α : Type) : Type
  /-- The program is done. -/
  | pure (a : α)
  /-- Call the environment and go on with the answer. -/
  | call (i : ι) (next : ο i → Program ο α)

namespace Program

variable {ι : Type} {ο : ι → Type} {α β : Type}

/-- Run a program and go on with its result. -/
def bind (p : Program ο α) (f : α → Program ο β) : Program ο β :=
  match p with
  | .pure a => f a
  | .call i next => .call i fun answer => (next answer).bind f

instance : Monad (Program ο) where
  pure := .pure
  bind := .bind

/-- Running a program and stopping is running it. -/
lemma bind_pure (p : Program ο α) : p.bind .pure = p := by
  induction p with
  | pure a => rfl
  | call i next ih => exact congrArg (Program.call i) (funext ih)

/-- Three programs in a row. -/
lemma bind_assoc {γ : Type} (p : Program ο α) (f : α → Program ο β) (g : β → Program ο γ) :
    (p.bind f).bind g = p.bind fun a => (f a).bind g := by
  induction p with
  | pure a => rfl
  | call i next ih => exact congrArg (Program.call i) (funext ih)

instance : LawfulMonad (Program ο) :=
  LawfulMonad.mk' (Program ο) bind_pure (fun _ _ => rfl) bind_assoc

/-- Make one call and return its answer. -/
def request (i : ι) : Program ο (ο i) := .call i .pure

/-- What the calls do to a state and answer. -/
abbrev Handler (ο : ι → Type) (σ : Type) := (i : ι) → σ → ο i × σ

variable {σ : Type} (h : Handler ο σ)

/-- Run a program against a handler: its result and the state it leaves. -/
def run : Program ο α → σ → α × σ
  | .pure a, s => (a, s)
  | .call i next, s => run (next (h i s).1) (h i s).2

/-- The run of a program that is done. -/
@[simp] lemma run_pure (a : α) (s : σ) : run h (pure a : Program ο α) s = (a, s) := rfl

/-- The run of one call. -/
@[simp] lemma run_request (i : ι) (s : σ) : run h (request i) s = h i s := rfl

/-- The run of two programs in a row. -/
@[simp] lemma run_bind (p : Program ο α) (f : α → Program ο β) (s : σ) :
    run h (p >>= f) s = run h (f (run h p s).1) (run h p s).2 := by
  show run h (p.bind f) s = _
  induction p generalizing s with
  | pure a => rfl
  | call i next ih => exact ih (h i s).1 (h i s).2

/-- The run of a program whose result is mapped. -/
@[simp] lemma run_map (g : α → β) (p : Program ο α) (s : σ) :
    run h (g <$> p) s = (g (run h p s).1, (run h p s).2) :=
  run_bind h p (fun a => pure (g a)) s

/-! ## Calls that may be answered in several ways -/

/-- What the calls may answer, and do to a state. -/
abbrev Effect (ο : ι → Type) (σ : Type) := (i : ι) → σ → ο i → σ → Prop

/-- The program may go from `s` to `t` with the result `b`. -/
def Runs (effect : Effect ο σ) : Program ο α → σ → α → σ → Prop
  | .pure a, s, b, t => a = b ∧ s = t
  | .call i next, s, b, t => ∃ answer u, effect i s answer u ∧ Runs effect (next answer) u b t

section Runs

variable {effect : Effect ο σ} {s t : σ}

/-- A program that is done. -/
@[simp] lemma runs_pure {a b : α} :
    Runs effect (Pure.pure a : Program ο α) s b t ↔ a = b ∧ s = t := .rfl

/-- One call. -/
@[simp] lemma runs_request {i : ι} {answer : ο i} :
    Runs effect (request i) s answer t ↔ effect i s answer t := by
  simp only [request, Runs]
  constructor
  · rintro ⟨answer', u, heffect, rfl, rfl⟩
    exact heffect
  · exact fun heffect => ⟨answer, t, heffect, rfl, rfl⟩

/-- Two programs in a row.

**Proof sketch.** By induction on the first program. Its first call is the first call of both. -/
@[simp] lemma runs_bind {p : Program ο α} {f : α → Program ο β} {b : β} :
    Runs effect (p >>= f) s b t ↔ ∃ a u, Runs effect p s a u ∧ Runs effect (f a) u b t := by
  show Runs effect (p.bind f) s b t ↔ _
  induction p generalizing s with
  | pure a =>
    constructor
    · exact fun h => ⟨a, s, ⟨rfl, rfl⟩, h⟩
    · rintro ⟨a', u, ⟨rfl, rfl⟩, h⟩
      exact h
  | call i next ih =>
    simp only [Program.bind, Runs, ih]
    constructor
    · rintro ⟨answer, v, heffect, a, u, hp, hf⟩
      exact ⟨a, u, ⟨answer, v, heffect, hp⟩, hf⟩
    · rintro ⟨a, u, ⟨answer, v, heffect, hp⟩, hf⟩
      exact ⟨answer, v, heffect, a, u, hp, hf⟩

/-- A program whose result is mapped. -/
@[simp] lemma runs_map {g : α → β} {p : Program ο α} {b : β} :
    Runs effect (g <$> p) s b t ↔ ∃ a, Runs effect p s a t ∧ g a = b := by
  rw [← bind_pure_comp, runs_bind]
  constructor
  · rintro ⟨a, u, hp, hg, rfl⟩
    exact ⟨a, hp, hg⟩
  · rintro ⟨a, hp, hg⟩
    exact ⟨a, t, hp, hg, rfl⟩

end Runs

/-! ## Programs of other calls -/

section Translate

variable {ι' : Type} {ο' : ι' → Type}

/-- The program that makes other calls in the place of each call. -/
def translate (f : (i : ι) → Program ο' (ο i)) : Program ο α → Program ο' α
  | .pure a => .pure a
  | .call i next => (f i).bind fun answer => (next answer).translate f

/-- The translation of a program that is done. -/
@[simp] lemma translate_pure (f : (i : ι) → Program ο' (ο i)) (a : α) :
    (Pure.pure a : Program ο α).translate f = Pure.pure a := rfl

/-- The translation of one call. -/
@[simp] lemma translate_request (f : (i : ι) → Program ο' (ο i)) (i : ι) :
    (request i).translate f = f i := bind_pure (f i)

/-- The translation of two programs in a row. -/
@[simp] lemma translate_bind (f : (i : ι) → Program ο' (ο i)) (p : Program ο α)
    (g : α → Program ο β) :
    (p >>= g).translate f = p.translate f >>= fun a => (g a).translate f := by
  show (p.bind g).translate f = (p.translate f).bind _
  induction p with
  | pure a => rfl
  | call i next ih =>
    simp only [Program.bind, translate, ih, bind_assoc]

/-- What a translated program may do, if each call is translated to what it does. -/
lemma runs_translate {f : (i : ι) → Program ο' (ο i)} {effect : Effect ο σ}
    {effect' : Effect ο' σ}
    (h : ∀ i s answer t, Runs effect' (f i) s answer t ↔ effect i s answer t)
    {p : Program ο α} {s t : σ} {b : α} :
    Runs effect' (p.translate f) s b t ↔ Runs effect p s b t := by
  induction p generalizing s with
  | pure a => exact .rfl
  | call i next ih =>
    show Runs effect' (f i >>= fun answer => (next answer).translate f) s b t ↔ _
    simp only [runs_bind, h, ih, Runs]

end Translate

/-! ## Postconditions -/

/-- The run of the program from `s` ends with a result and a state that satisfy `post`. -/
def Ensures (p : Program ο α) (s : σ) (post : α → σ → Prop) : Prop :=
  post (run h p s).1 (run h p s).2

variable {h}

/-- A weaker postcondition. -/
lemma Ensures.mono {p : Program ο α} {s : σ} {post post' : α → σ → Prop}
    (hp : p.Ensures h s post) (himp : ∀ a s', post a s' → post' a s') : p.Ensures h s post' :=
  himp _ _ hp

/-- A program that is done. -/
lemma Ensures.pure {a : α} {s : σ} {post : α → σ → Prop} (hpost : post a s) :
    (Pure.pure a : Program ο α).Ensures h s post :=
  hpost

/-- One call. -/
lemma Ensures.request {i : ι} {s : σ} {post : ο i → σ → Prop}
    (hpost : post (h i s).1 (h i s).2) : (Program.request i).Ensures h s post :=
  hpost

/-- Two programs in a row: the postcondition of the first is the precondition of the second. -/
lemma Ensures.bind {p : Program ο α} {f : α → Program ο β} {s : σ} {mid : α → σ → Prop}
    {post : β → σ → Prop} (hp : p.Ensures h s mid)
    (hf : ∀ a s', mid a s' → (f a).Ensures h s' post) : (p >>= f).Ensures h s post := by
  unfold Ensures
  rw [run_bind]
  exact hf _ _ hp

end Program
