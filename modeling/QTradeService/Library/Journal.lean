import Mathlib.Init

set_option relaxedAutoImplicit false
set_option autoImplicit false

/-!
# Computations that keep a journal

A computation on a state that notes in a journal what it does. Erasing the journal gives the
computation back, so that a program that is written for any monad can be run with and without a
journal, and what the journal says is said about the program.

## Main definitions

* `Journaled` — computations on a state with a journal, a monad.
* `Journaled.note` — a computation that makes one entry.
* `Journaled.erase` — the computation without its journal.
* `Journaled.Yields` — what holds of the result and the journal of every run.

## Main results

* `Journaled.erase_bind` — erasing the journal respects the order of the computations.
* `Journaled.Yields.bind` — the journals of two computations in a row.
-/

/-- Computations on states of `σ` that keep a journal with entries in `ε`. -/
def Journaled (ε σ α : Type) : Type := σ → (α × σ) × List ε

namespace Journaled

variable {ε σ α β : Type}

instance : Monad (Journaled ε σ) where
  pure a := fun s => ((a, s), [])
  bind p f := fun s =>
    let ((a, s'), journal) := p s
    let (out, journal') := f a s'
    (out, journal ++ journal')

/-- A computation that makes one entry, which may tell its result. -/
def note (p : StateM σ α) (entry : α → ε) : Journaled ε σ α :=
  fun s => (p.run s, [entry (p.run s).1])

/-- The computation without its journal. -/
def erase (p : Journaled ε σ α) : StateM σ α := fun s => (p s).1

/-- A result without a journal. -/
@[simp] lemma erase_pure (a : α) : erase (pure a : Journaled ε σ α) = pure a := rfl

/-- Two computations in a row. -/
@[simp] lemma erase_bind (p : Journaled ε σ α) (f : α → Journaled ε σ β) :
    erase (p >>= f) = erase p >>= fun a => erase (f a) := rfl

/-- A computation that makes one entry. -/
@[simp] lemma erase_note (p : StateM σ α) (entry : α → ε) : erase (note p entry) = p := rfl

/-- Every run of the computation ends with a result and a journal that satisfy `post`. -/
def Yields (p : Journaled ε σ α) (post : α → List ε → Prop) : Prop :=
  ∀ s, post (p s).1.1 (p s).2

/-- A weaker postcondition. -/
lemma Yields.mono {p : Journaled ε σ α} {post post' : α → List ε → Prop} (h : p.Yields post)
    (himp : ∀ a journal, post a journal → post' a journal) : p.Yields post' :=
  fun s => himp _ _ (h s)

/-- A result makes no entry. -/
lemma Yields.pure {a : α} {post : α → List ε → Prop} (h : post a []) :
    (Pure.pure a : Journaled ε σ α).Yields post :=
  fun _ => h

/-- A computation that makes one entry. -/
lemma Yields.note {p : StateM σ α} {entry : α → ε} {post : α → List ε → Prop}
    (h : ∀ a, post a [entry a]) : (note p entry).Yields post :=
  fun _ => h _

/-- Two computations in a row: the second goes on with the journal of the first. -/
lemma Yields.bind {p : Journaled ε σ α} {f : α → Journaled ε σ β} {mid : α → List ε → Prop}
    {post : β → List ε → Prop} (hp : p.Yields mid)
    (hf : ∀ a journal, mid a journal →
      (f a).Yields fun b journal' => post b (journal ++ journal')) :
    (p >>= f).Yields post :=
  fun s => hf _ _ (hp s) (p s).1.2

/-- An entry and then the rest. -/
lemma Yields.note_bind {p : StateM σ α} {entry : α → ε} {f : α → Journaled ε σ β}
    {post : β → List ε → Prop}
    (hf : ∀ a, (f a).Yields fun b journal => post b (entry a :: journal)) :
    (Journaled.note p entry >>= f).Yields post :=
  fun s => hf (p.run s).1 (p.run s).2

end Journaled
