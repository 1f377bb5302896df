import Mathlib.Tactic.Common
import QTradeService.Library.Sql.Reader

set_option relaxedAutoImplicit false
set_option autoImplicit false

/-!
# String literals with backslash escapes

The lexer of MySQL, in its default mode, knows two escapes inside a string literal between single
quotes: a doubled quote, and a backslash followed by a character. A text that was prepared for a
lexer with the first escape only is read by it in another way as soon as it contains a backslash.

## Main definitions

* `Sql.MySql.readLiteral` — the value of a literal, and the text after its closing quote.
* `Sql.MySql.BackslashesKept` — every backslash is one that this lexer keeps.

## Main results

* `Sql.MySql.readLiteral_escaped_iff` — exactly which values survive the doubling of quotes.
-/

namespace Sql

namespace MySql

/-- The backslash. -/
def backslash : Char := Char.ofNat 92

/-- What a backslash followed by `c` stands for. The backslash is kept in front of `%` and `_`,
which mean something else in patterns, and dropped in front of any character without a meaning. -/
def unescape (c : Char) : List Char :=
  match c with
  | '0' => [Char.ofNat 0]
  | 'b' => [Char.ofNat 8]
  | 't' => [Char.ofNat 9]
  | 'n' => [Char.ofNat 10]
  | 'r' => [Char.ofNat 13]
  | 'Z' => [Char.ofNat 26]
  | '%' => [backslash, '%']
  | '_' => [backslash, '_']
  | c => [c]

/-- Read a string literal after its opening quote: the value that it denotes and the text after
its closing quote. There is none if the text ends inside the literal. -/
def readLiteral : List Char → Option (List Char × List Char)
  | [] => none
  | c :: cs =>
    if c = quote then
      match cs with
      | [] => some ([], [])
      | d :: ds =>
        if d = quote then (readLiteral ds).map fun (value, rest) => (quote :: value, rest)
        else some ([], d :: ds)
    else if c = backslash then
      match cs with
      | [] => none
      | d :: ds => (readLiteral ds).map fun (value, rest) => (unescape d ++ value, rest)
    else
      (readLiteral cs).map fun (value, rest) => (c :: value, rest)

/-- Every backslash in the value stands directly before a `%` or a `_`. -/
def BackslashesKept (value : List Char) : Prop :=
  ∀ pre post, value = pre ++ backslash :: post → ∃ d ∈ post.head?, d = '%' ∨ d = '_'

/-! ## One character of a literal -/

/-- A character that is neither a quote nor a backslash. -/
lemma readLiteral_plain {c : Char} (hq : c ≠ quote) (hb : c ≠ backslash) (cs : List Char) :
    readLiteral (c :: cs) = (readLiteral cs).map fun (value, rest) => (c :: value, rest) := by
  rw [readLiteral.eq_def]
  simp only [if_neg hq, if_neg hb]

/-- Two quotes. -/
lemma readLiteral_quotes (cs : List Char) :
    readLiteral (quote :: quote :: cs) =
      (readLiteral cs).map fun (value, rest) => (quote :: value, rest) := by
  rw [readLiteral, if_pos rfl]
  simp only [if_true]

/-- A quote that is not doubled ends the literal. -/
lemma readLiteral_quote {rest : List Char} (h : EndsLiteral rest) :
    readLiteral (quote :: rest) = some ([], rest) := by
  cases rest with
  | nil => decide
  | cons d ds =>
    rw [readLiteral, if_pos rfl]
    exact if_neg (h d rfl)

/-- A backslash and the character after it. -/
lemma readLiteral_backslash (d : Char) (ds : List Char) :
    readLiteral (backslash :: d :: ds) =
      (readLiteral ds).map fun (value, rest) => (unescape d ++ value, rest) := by
  rw [readLiteral, if_neg (by decide), if_pos rfl]

/-- A backslash at the end of the text. -/
lemma readLiteral_backslash_nil : readLiteral [backslash] = none := by decide

/-- A text whose first quote is not doubled goes on after it. -/
lemma readLiteral_quote_cons {c : Char} (h : c ≠ quote) (cs : List Char) :
    readLiteral (quote :: c :: cs) = some ([], c :: cs) :=
  readLiteral_quote (.cons h cs)

/-! ## What has been read -/

/-- Two quotes have been read. -/
lemma exists_of_quotes {cs w r : List Char} (h : readLiteral (quote :: quote :: cs) = some (w, r)) :
    ∃ v, readLiteral cs = some (v, r) ∧ quote :: v = w := by
  rw [readLiteral_quotes, Option.map_eq_some_iff] at h
  obtain ⟨⟨v, r'⟩, hr, hv⟩ := h
  cases hv
  exact ⟨v, hr, rfl⟩

/-- A backslash and the character after it have been read. -/
lemma exists_of_backslash {d : Char} {ds w r : List Char}
    (h : readLiteral (backslash :: d :: ds) = some (w, r)) :
    ∃ v, readLiteral ds = some (v, r) ∧ unescape d ++ v = w := by
  rw [readLiteral_backslash, Option.map_eq_some_iff] at h
  obtain ⟨⟨v, r'⟩, hr, hv⟩ := h
  cases hv
  exact ⟨v, hr, rfl⟩

/-- A character that is neither a quote nor a backslash has been read. -/
lemma exists_of_plain {c : Char} (hq : c ≠ quote) (hb : c ≠ backslash) {cs w r : List Char}
    (h : readLiteral (c :: cs) = some (w, r)) :
    ∃ v, readLiteral cs = some (v, r) ∧ c :: v = w := by
  rw [readLiteral_plain hq hb, Option.map_eq_some_iff] at h
  obtain ⟨⟨v, r'⟩, hr, hv⟩ := h
  cases hv
  exact ⟨v, hr, rfl⟩

/-- What is left is shorter than the text.

**Proof sketch.** By induction along the reader, which takes at least one character in every
step. -/
lemma length_of_readLiteral {cs value rest : List Char} (h : readLiteral cs = some (value, rest)) :
    rest.length < cs.length := by
  induction cs using readLiteral.induct generalizing value with
  | case1 => cases h
  | case2 =>
    cases h
    exact Nat.zero_lt_one
  | case3 ds ih =>
    obtain ⟨v, hr, -⟩ := exists_of_quotes h
    have := ih hr
    simp only [List.length_cons]
    omega
  | case4 d ds hd =>
    rw [readLiteral_quote_cons hd] at h
    cases h
    exact Nat.lt_succ_self _
  | case5 =>
    rw [readLiteral_backslash_nil] at h
    cases h
  | case6 hne d ds ih =>
    obtain ⟨v, hr, -⟩ := exists_of_backslash h
    have := ih hr
    simp only [List.length_cons]
    omega
  | case7 c cs hq hb ih =>
    obtain ⟨v, hr, -⟩ := exists_of_plain hq hb h
    have := ih hr
    simp only [List.length_cons]
    omega

/-- A literal that ends with its first quote is empty, and no quote follows. -/
lemma of_readLiteral_quote {rest w : List Char} (h : readLiteral (quote :: rest) = some (w, rest)) :
    w = [] ∧ EndsLiteral rest := by
  have hrest : EndsLiteral rest := by
    rintro d hd rfl
    obtain ⟨rest', rfl⟩ := List.head?_eq_some_iff.mp hd
    obtain ⟨v, hr, -⟩ := exists_of_quotes h
    have := length_of_readLiteral hr
    simp only [List.length_cons] at this
    omega
  have hnil := (readLiteral_quote hrest).symm.trans h
  exact ⟨(Prod.mk.inj (Option.some.inj hnil)).1.symm, hrest⟩

/-! ## Backslashes that are kept -/

/-- The empty value has no backslash. -/
lemma BackslashesKept.nil : BackslashesKept [] := by
  intro pre post h
  simp at h

/-- Any other character in front makes no difference. -/
lemma backslashesKept_cons {c : Char} (hc : c ≠ backslash) {value : List Char} :
    BackslashesKept (c :: value) ↔ BackslashesKept value := by
  constructor
  · intro h pre post hvalue
    exact h (c :: pre) post (by rw [hvalue, List.cons_append])
  · intro h pre post hvalue
    cases pre with
    | nil => exact absurd (List.cons.inj hvalue).1 hc
    | cons _ pre => exact h pre post (List.cons.inj hvalue).2

/-- A backslash at the end of the value is not kept. -/
lemma not_backslashesKept_singleton : ¬BackslashesKept [backslash] := by
  intro h
  obtain ⟨d, hd, -⟩ := h [] [] rfl
  cases hd

/-- A backslash in front of a character.

**Proof sketch.** The first backslash keeps its meaning by the character behind it, and every later
one stands in the rest of the value, since that character is no backslash. -/
lemma backslashesKept_backslash {d : Char} {value : List Char} :
    BackslashesKept (backslash :: d :: value) ↔ (d = '%' ∨ d = '_') ∧ BackslashesKept value := by
  constructor
  · intro h
    obtain ⟨d', hd', hkept⟩ := h [] (d :: value) rfl
    obtain rfl : d = d' := Option.some.inj hd'
    refine ⟨hkept, fun pre post hvalue => ?_⟩
    exact h (backslash :: d :: pre) post (by rw [hvalue]; rfl)
  · rintro ⟨hd, h⟩
    have hne : d ≠ backslash := by
      rcases hd with rfl | rfl <;> decide
    intro pre post hvalue
    cases pre with
    | nil =>
      obtain rfl := (List.cons.inj hvalue).2
      exact ⟨d, rfl, hd⟩
    | cons _ pre => exact (backslashesKept_cons hne).mpr h pre post (List.cons.inj hvalue).2

/-- What a backslash in front of `%` or `_` stands for. -/
lemma unescape_of_kept {d : Char} (h : d = '%' ∨ d = '_') : unescape d = [backslash, d] := by
  rcases h with rfl | rfl <;> rfl

/-- A backslash and a character stand for two characters only if the backslash is kept. -/
lemma length_unescape (d : Char) :
    (unescape d).length ≤ 2 ∧ ((unescape d).length = 2 → d = '%' ∨ d = '_') := by
  unfold unescape
  split <;> simp

/-! ## Values with their quotes doubled -/

/-- A quote is doubled. -/
lemma escaped_quote (value : List Char) :
    escaped (quote :: value) = quote :: quote :: escaped value := rfl

/-- Any other character stays. -/
lemma escaped_cons {c : Char} (hc : c ≠ quote) (value : List Char) :
    escaped (c :: value) = c :: escaped value := by
  have htail : escaped (c :: value) =
      (if c = quote then [quote, quote] else [c]) ++ escaped value := rfl
  rw [htail, if_neg hc]
  rfl

/-- The quote and the backslash are different characters. -/
lemma backslash_ne_quote : backslash ≠ quote := by decide

/-- A value whose backslashes are kept is read back. -/
lemma readLiteral_escaped {rest : List Char} (hrest : EndsLiteral rest) :
    ∀ value, BackslashesKept value →
      readLiteral (escaped value ++ quote :: rest) = some (value, rest)
  | [], _ => readLiteral_quote hrest
  | c :: value, h => by
    by_cases hq : c = quote
    · subst hq
      have ih := readLiteral_escaped hrest value ((backslashesKept_cons (by decide)).mp h)
      rw [escaped_quote, List.cons_append, List.cons_append, readLiteral_quotes, ih]
      rfl
    by_cases hb : c = backslash
    · subst hb
      cases value with
      | nil => exact absurd h not_backslashesKept_singleton
      | cons d value =>
        obtain ⟨hd, hkept⟩ := backslashesKept_backslash.mp h
        have ih := readLiteral_escaped hrest value hkept
        have hdq : d ≠ quote := by rcases hd with rfl | rfl <;> decide
        rw [escaped_cons backslash_ne_quote, escaped_cons hdq, List.cons_append,
          List.cons_append, readLiteral_backslash, ih, unescape_of_kept hd]
        rfl
    · have ih := readLiteral_escaped hrest value ((backslashesKept_cons hb).mp h)
      rw [escaped_cons hq, List.cons_append, readLiteral_plain hq hb, ih]
      rfl
  termination_by value => value.length

/-- Between the two quotes of a doubled one, the lexer never finds the closing quote: it ends the
literal too early, or runs past the closing quote.

**Proof sketch.** Induction on the value. A doubled quote leaves the lexer between two quotes
again; any other character makes the quote before it the end; and at the end of the value the
quote before it and the closing quote are one doubled quote. -/
lemma readLiteral_between_quotes {value rest w r : List Char}
    (h : readLiteral (quote :: (escaped value ++ quote :: rest)) = some (w, r)) : r ≠ rest := by
  induction value generalizing w with
  | nil =>
    obtain ⟨v, hr, -⟩ := exists_of_quotes h
    rintro rfl
    exact absurd (length_of_readLiteral hr) (Nat.lt_irrefl _)
  | cons c value ih =>
    by_cases hq : c = quote
    · subst hq
      rw [escaped_quote, List.cons_append, List.cons_append] at h
      obtain ⟨v, hr, -⟩ := exists_of_quotes h
      exact ih hr
    · rw [escaped_cons hq, List.cons_append, readLiteral_quote_cons hq] at h
      cases h
      intro hlen
      have := congrArg List.length hlen
      simp only [List.length_cons, List.length_append] at this
      omega

/-- If the literal ends at its closing quote, then it denotes no more characters than the value
has, and fewer if a backslash is lost.

**Proof sketch.** By induction on the value. A quote is doubled and read back as one; a backslash
takes the next character with it, and if that is the quote at the end of the value the literal does
not end there; all other characters are read as they are. -/
lemma length_of_readLiteral_escaped {rest : List Char} :
    ∀ value w, readLiteral (escaped value ++ quote :: rest) = some (w, rest) →
      w.length ≤ value.length ∧
        (w.length = value.length → BackslashesKept value ∧ EndsLiteral rest)
  | [], w, h => by
    obtain ⟨rfl, hrest⟩ := of_readLiteral_quote h
    exact ⟨Nat.le_refl _, fun _ => ⟨.nil, hrest⟩⟩
  | c :: value, w, h => by
    by_cases hq : c = quote
    · subst hq
      rw [escaped_quote, List.cons_append, List.cons_append] at h
      obtain ⟨v, hr, rfl⟩ := exists_of_quotes h
      obtain ⟨hle, heq⟩ := length_of_readLiteral_escaped value v hr
      simp only [List.length_cons, Nat.add_le_add_iff_right, Nat.add_right_cancel_iff]
      rw [backslashesKept_cons (by decide)]
      exact ⟨hle, heq⟩
    by_cases hb : c = backslash
    · subst hb
      cases value with
      | nil =>
        -- the backslash takes the closing quote
        have htext : escaped [backslash] ++ quote :: rest = backslash :: quote :: rest := by
          rw [escaped_cons backslash_ne_quote]
          rfl
        rw [htext] at h
        obtain ⟨v, hr, -⟩ := exists_of_backslash h
        exact absurd (length_of_readLiteral hr) (Nat.lt_irrefl _)
      | cons d value =>
        rw [escaped_cons backslash_ne_quote, List.cons_append] at h
        by_cases hdq : d = quote
        · subst hdq
          rw [escaped_quote, List.cons_append, List.cons_append] at h
          obtain ⟨v, hr, -⟩ := exists_of_backslash h
          exact absurd rfl (readLiteral_between_quotes hr)
        · rw [escaped_cons hdq, List.cons_append] at h
          obtain ⟨v, hr, rfl⟩ := exists_of_backslash h
          obtain ⟨hle, heq⟩ := length_of_readLiteral_escaped value v hr
          obtain ⟨htwo, hkept⟩ := length_unescape d
          simp only [List.length_append, List.length_cons]
          refine ⟨by omega, fun hlen => ?_⟩
          obtain ⟨hvalue, hrest⟩ := heq (by omega)
          exact ⟨backslashesKept_backslash.mpr ⟨hkept (by omega), hvalue⟩, hrest⟩
    · rw [escaped_cons hq, List.cons_append] at h
      obtain ⟨v, hr, rfl⟩ := exists_of_plain hq hb h
      obtain ⟨hle, heq⟩ := length_of_readLiteral_escaped value v hr
      simp only [List.length_cons, Nat.add_le_add_iff_right, Nat.add_right_cancel_iff]
      rw [backslashesKept_cons hb]
      exact ⟨hle, heq⟩
  termination_by value => value.length

/-- A value whose quotes are doubled is read back, up to its closing quote, exactly if all its
backslashes are kept and no quote follows the closing one. -/
theorem readLiteral_escaped_iff {value rest : List Char} :
    readLiteral (escaped value ++ quote :: rest) = some (value, rest) ↔
      BackslashesKept value ∧ EndsLiteral rest :=
  ⟨fun h => (length_of_readLiteral_escaped value value h).2 rfl,
    fun h => readLiteral_escaped h.2 value h.1⟩

end MySql

end Sql
