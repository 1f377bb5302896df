import Mathlib.Logic.Basic

set_option relaxedAutoImplicit false
set_option autoImplicit false

/-!
# Reading the text of a SQL statement

A lexer and a parser for the statements that a simple data access layer writes: `INSERT`,
`UPDATE`, `DELETE` and `SELECT` on one table, with string literals for all values and a
conjunction of equations as the condition. A string literal stands between single quotes, and a
doubled quote inside it is its only escape.

The lexer is a machine that reads one character at a time, so that the tokens of a text that is
put together from pieces can be computed piece by piece.

## Main definitions

* `Sql.Token`, `Sql.lex` — the tokens of a text.
* `Sql.Statement`, `Sql.read` — the statement that a text stands for, if it is one.
* `Sql.Reads` — the tokens of a text that is put together from right to left.

## Main results

* `Sql.lexFrom_append` — the tokens of a text, piece by piece.
* `Sql.Reads.literal` — a literal whose quotes are doubled is read back, whatever its value.
* `Sql.Reads.intercalate` — pieces with separators between them.
* `Sql.readConditions_intercalate` and so on — what is written with separators is read back.
-/

namespace Sql

/-! ## Tokens -/

/-- The single quote. -/
def quote : Char := Char.ofNat 39

/-- The characters of names, keywords and numbers. -/
def isWordChar (c : Char) : Bool := c.isAlphanum || c == '_'

/-- A token. -/
inductive Token
  /-- A name, a keyword or a number. -/
  | word (text : String)
  /-- A string literal, with the value that it stands for. -/
  | literal (value : String)
  /-- Any other character that is not white space. -/
  | symbol (c : Char)
  deriving DecidableEq, Repr

/-- What the lexer remembers between two characters. -/
inductive LexState
  | between
  | inWord (text : List Char)
  | inLiteral (value : List Char)
  /-- The last character was a quote inside a literal: its end, or the first of two. -/
  | afterQuote (value : List Char)
  deriving DecidableEq, Repr

/-- Read the first character after a token. -/
def LexState.start (c : Char) : List Token × LexState :=
  if c = quote then ([], .inLiteral [])
  else if isWordChar c then ([], .inWord [c])
  else if c.isWhitespace then ([], .between)
  else ([.symbol c], .between)

/-- Read one character: the token that it completes, and what to remember. -/
def LexState.step : LexState → Char → List Token × LexState
  | .between, c => start c
  | .inWord text, c =>
    if isWordChar c then ([], .inWord (text ++ [c]))
    else (.word (String.ofList text) :: (start c).1, (start c).2)
  | .inLiteral value, c =>
    if c = quote then ([], .afterQuote value) else ([], .inLiteral (value ++ [c]))
  | .afterQuote value, c =>
    if c = quote then ([], .inLiteral (value ++ [c]))
    else (.literal (String.ofList value) :: (start c).1, (start c).2)

/-- The token that the end of the text completes; a literal without its closing quote is an
error. -/
def LexState.finish : LexState → Option (List Token)
  | .between => some []
  | .inWord text => some [.word (String.ofList text)]
  | .inLiteral _ => none
  | .afterQuote value => some [.literal (String.ofList value)]

/-- The tokens of a text that is read from a given state on. -/
def lexFrom : LexState → List Char → Option (List Token)
  | s, [] => s.finish
  | s, c :: cs => (lexFrom (s.step c).2 cs).map fun ts => (s.step c).1 ++ ts

/-- The tokens of a text. -/
def lex (text : String) : Option (List Token) := lexFrom .between text.toList

/-- The tokens that a piece of text completes, and the state after it. -/
def LexState.run : LexState → List Char → List Token × LexState
  | s, [] => ([], s)
  | s, c :: cs => ((s.step c).1 ++ ((s.step c).2.run cs).1, ((s.step c).2.run cs).2)

/-- The tokens of a text whose first piece is `cs`. -/
lemma lexFrom_append (s : LexState) (cs rest : List Char) :
    lexFrom s (cs ++ rest) = (lexFrom (s.run cs).2 rest).map fun ts => (s.run cs).1 ++ ts := by
  induction cs generalizing s with
  | nil => simp [LexState.run]
  | cons c cs ih =>
    rw [List.cons_append, lexFrom, ih, Option.map_map]
    simp only [LexState.run, List.append_assoc, Function.comp_def]

/-! ## Statements -/

/-- A statement on one table. A condition is a conjunction of equations. -/
inductive Statement
  | insert (table : String) (values : List (String × String))
  | update (table : String) (assignments conditions : List (String × String))
  | delete (table : String) (conditions : List (String × String))
  /-- All columns of the rows that satisfy the condition. -/
  | select (table : String) (conditions : List (String × String))
  /-- The number of rows that satisfy the condition, in a column called `label`. -/
  | count (label table : String) (conditions : List (String × String))
  deriving DecidableEq, Repr

/-- Equations joined by `AND`, to the end. -/
def readConditions : List Token → Option (List (String × String))
  | .word column :: .symbol '=' :: .literal value :: [] => some [(column, value)]
  | .word column :: .symbol '=' :: .literal value :: .word "AND" :: rest =>
    (readConditions rest).map fun conditions => (column, value) :: conditions
  | _ => none

/-- An optional `WHERE` clause, to the end. -/
def readWhere : List Token → Option (List (String × String))
  | [] => some []
  | .word "WHERE" :: rest => readConditions rest
  | _ => none

/-- Equations separated by commas, and what follows them. -/
def readAssignments : List Token → Option (List (String × String) × List Token)
  | .word column :: .symbol '=' :: .literal value :: .symbol ',' :: rest =>
    (readAssignments rest).map fun (assignments, rest) => ((column, value) :: assignments, rest)
  | .word column :: .symbol '=' :: .literal value :: rest => some ([(column, value)], rest)
  | _ => none

/-- Names separated by commas up to a closing parenthesis, and what follows it. -/
def readColumns : List Token → Option (List String × List Token)
  | .word column :: .symbol ',' :: rest =>
    (readColumns rest).map fun (columns, rest) => (column :: columns, rest)
  | .word column :: .symbol ')' :: rest => some ([column], rest)
  | _ => none

/-- Literals separated by commas up to a closing parenthesis, which ends the text. -/
def readValues : List Token → Option (List String)
  | .literal value :: .symbol ',' :: rest =>
    (readValues rest).map fun values => value :: values
  | .literal value :: .symbol ')' :: [] => some [value]
  | _ => none

/-- The statement that a list of tokens stands for. -/
def readTokens : List Token → Option Statement
  | .word "INSERT" :: .word "INTO" :: .word table :: .symbol '(' :: rest => do
    let (columns, rest) ← readColumns rest
    match rest with
    | .word "VALUES" :: .symbol '(' :: rest =>
      let values ← readValues rest
      if columns.length = values.length then some (.insert table (columns.zip values)) else none
    | _ => none
  | .word "UPDATE" :: .word table :: .word "SET" :: rest => do
    let (assignments, rest) ← readAssignments rest
    let conditions ← readWhere rest
    some (.update table assignments conditions)
  | .word "DELETE" :: .word "FROM" :: .word table :: rest => do
    let conditions ← readWhere rest
    some (.delete table conditions)
  | .word "SELECT" :: .symbol '*' :: .word "FROM" :: .word table :: rest => do
    let conditions ← readWhere rest
    some (.select table conditions)
  | .word "SELECT" :: .word "COUNT" :: .symbol '(' :: .symbol '*' :: .symbol ')' ::
      .word "AS" :: .word label :: .word "FROM" :: .word table :: rest => do
    let conditions ← readWhere rest
    some (.count label table conditions)
  | _ => none

/-- The statement that a text stands for. -/
def read (text : String) : Option Statement := (lex text).bind readTokens

/-! ## The tokens of names and literals -/

/-- A text that the lexer reads as one word. -/
structure IsWord (text : String) : Prop where
  nonempty : text ≠ ""
  chars : ∀ c ∈ text.toList, isWordChar c = true

instance (text : String) : Decidable (IsWord text) :=
  decidable_of_iff (text ≠ "" ∧ text.toList.all isWordChar = true)
    ⟨fun h => ⟨h.1, List.all_eq_true.mp h.2⟩, fun h => ⟨h.1, List.all_eq_true.mpr h.2⟩⟩

/-- The text ends, or goes on with a character that is not part of a word. -/
def EndsWord (rest : List Char) : Prop := ∀ c ∈ rest.head?, isWordChar c = false

/-- The text ends, or goes on with a character other than a quote. -/
def EndsLiteral (rest : List Char) : Prop := ∀ c ∈ rest.head?, c ≠ quote

/-- The end of the text ends a word. -/
lemma EndsWord.nil : EndsWord [] := by simp [EndsWord]

/-- A character that is not part of a word ends it. -/
lemma EndsWord.cons {c : Char} (hc : isWordChar c = false) (rest : List Char) :
    EndsWord (c :: rest) := by
  simp [EndsWord, hc]

/-- The end of the text ends a literal. -/
lemma EndsLiteral.nil : EndsLiteral [] := by simp [EndsLiteral]

/-- A character other than a quote ends a literal. -/
lemma EndsLiteral.cons {c : Char} (hc : c ≠ quote) (rest : List Char) :
    EndsLiteral (c :: rest) := by
  simp [EndsLiteral, hc]

/-- The quote is not part of a word. -/
lemma isWordChar_quote : isWordChar quote = false := by decide

/-- A character of a word after a word. -/
lemma run_inWord {text cs : List Char} (h : ∀ c ∈ cs, isWordChar c = true) :
    (LexState.inWord text).run cs = ([], .inWord (text ++ cs)) := by
  induction cs generalizing text with
  | nil => simp [LexState.run]
  | cons c cs ih =>
    have hc := h c (List.mem_cons_self ..)
    simp [LexState.run, LexState.step, hc, ih fun c hc => h c (List.mem_cons_of_mem _ hc)]

/-- The end of a word. -/
lemma lexFrom_inWord {text rest : List Char} (h : EndsWord rest) :
    lexFrom (.inWord text) rest =
      (lexFrom .between rest).map fun ts => .word (String.ofList text) :: ts := by
  cases rest with
  | nil => rfl
  | cons c rest =>
    have hc : isWordChar c = false := h c rfl
    simp [lexFrom, LexState.step, hc, Function.comp_def]

/-- A name or a keyword, followed by something else.

**Proof sketch.** The first character starts a word and the others continue it, until the rest ends
it. -/
lemma lexFrom_word {text : String} (htext : IsWord text) {rest : List Char} (h : EndsWord rest) :
    lexFrom .between (text.toList ++ rest) =
      (lexFrom .between rest).map fun ts => .word text :: ts := by
  obtain ⟨hne, hchars⟩ := htext
  cases hcs : text.toList with
  | nil => exact absurd (String.toList_eq_nil_iff.mp hcs) hne
  | cons c cs =>
    rw [hcs] at hchars
    have hc : isWordChar c = true := hchars c (List.mem_cons_self ..)
    have hq : c ≠ quote := by
      rintro rfl
      rw [isWordChar_quote] at hc
      cases hc
    have hrun : LexState.between.run (c :: cs) = ([], .inWord (c :: cs)) := by
      simp [LexState.run, LexState.step, LexState.start, hq, hc,
        run_inWord fun c hc => hchars c (List.mem_cons_of_mem _ hc)]
    rw [lexFrom_append, hrun, lexFrom_inWord h, ← hcs, String.ofList_toList]
    simp [Function.comp_def]

/-- The end of a literal. -/
lemma lexFrom_afterQuote {value rest : List Char} (h : EndsLiteral rest) :
    lexFrom (.afterQuote value) rest =
      (lexFrom .between rest).map fun ts => .literal (String.ofList value) :: ts := by
  cases rest with
  | nil => rfl
  | cons c rest =>
    have hc : c ≠ quote := h c rfl
    simp [lexFrom, LexState.step, hc, Function.comp_def]

/-! ## Reading a text from its end

A text is put together from right to left: each rule below puts one more piece in front of a text
whose tokens are known. -/

/-- The text is read as these tokens. -/
def Reads (cs : List Char) (ts : List Token) : Prop := lexFrom .between cs = some ts

/-- A literal with its quotes doubled. -/
def escaped (value : List Char) : List Char :=
  value.flatMap fun c => if c = quote then [quote, quote] else [c]

/-- The empty text. -/
lemma Reads.nil : Reads [] [] := rfl

/-- A blank in front. -/
lemma Reads.blank {rest : List Char} {ts : List Token} (h : Reads rest ts) :
    Reads (' ' :: rest) ts := by
  have hstart : LexState.start ' ' = ([], .between) := by decide
  unfold Reads at h ⊢
  rw [lexFrom, LexState.step, hstart, h]
  rfl

/-- A symbol in front. -/
lemma Reads.symbol {c : Char} {rest : List Char} {ts : List Token} (h : Reads rest ts)
    (hc : LexState.start c = ([.symbol c], .between)) :
    Reads (c :: rest) (.symbol c :: ts) := by
  unfold Reads at h ⊢
  rw [lexFrom, LexState.step, hc, h]
  rfl

/-- A word in front. -/
lemma Reads.word {text : String} {rest : List Char} {ts : List Token} (h : Reads rest ts)
    (htext : IsWord text) (hrest : EndsWord rest) :
    Reads (text.toList ++ rest) (.word text :: ts) := by
  unfold Reads at h ⊢
  rw [lexFrom_word htext hrest, h]
  rfl

/-- A word and a blank in front. -/
lemma Reads.word_blank {text : String} {rest : List Char} {ts : List Token} (h : Reads rest ts)
    (htext : IsWord text) : Reads (text.toList ++ ' ' :: rest) (.word text :: ts) :=
  h.blank.word htext (.cons (by decide) _)

/-- The inside of a literal is read back, whatever it is.

**Proof sketch.** By induction on the value, whatever is read already. A quote is doubled, and the
second one brings the reader back into the literal. -/
lemma lexFrom_escaped (pre value rest : List Char) :
    lexFrom (.inLiteral pre) (escaped value ++ quote :: rest) =
      lexFrom (.afterQuote (pre ++ value)) rest := by
  induction value generalizing pre with
  | nil => simp [escaped, lexFrom, LexState.step]
  | cons c value ih =>
    have htail : escaped (c :: value) =
        (if c = quote then [quote, quote] else [c]) ++ escaped value := rfl
    rw [htail, List.append_assoc]
    by_cases hc : c = quote
    · have hnext := ih (pre ++ [quote])
      simp [hc, lexFrom, LexState.step, hnext]
    · have hnext := ih (pre ++ [c])
      simp [hc, lexFrom, LexState.step, hnext]

/-- A literal in front. -/
lemma Reads.literal {value : String} {rest : List Char} {ts : List Token} (h : Reads rest ts)
    (hrest : EndsLiteral rest) :
    Reads (quote :: (escaped value.toList ++ quote :: rest)) (.literal value :: ts) := by
  have hstart : LexState.start quote = ([], .inLiteral []) := by decide
  unfold Reads at h ⊢
  rw [lexFrom, LexState.step, hstart, lexFrom_escaped, List.nil_append, lexFrom_afterQuote hrest,
    String.ofList_toList, h]
  rfl

/-- Pieces with a separator between them in front.

**Proof sketch.** Induction on the pieces: the text after a piece starts with the separator, or it
is the given rest. -/
lemma Reads.intercalate {α : Type} (text : α → List Char) (Ends : List Char → Prop)
    {tokens : α → List Token} {sep : List Char} {sepTokens : List Token}
    (hsep : ∀ rest ts, Reads rest ts → Reads (sep ++ rest) (sepTokens ++ ts))
    (hends : ∀ rest, Ends (sep ++ rest)) {items : List α}
    (hitem : ∀ x ∈ items, ∀ rest ts, Ends rest → Reads rest ts →
      Reads (text x ++ rest) (tokens x ++ ts))
    {rest : List Char} {ts : List Token} (hrest : Ends rest) (h : Reads rest ts) :
    Reads (sep.intercalate (items.map text) ++ rest)
      (sepTokens.intercalate (items.map tokens) ++ ts) := by
  induction items with
  | nil => simpa using h
  | cons x items ih =>
    have htail := ih fun y hy => hitem y (List.mem_cons_of_mem _ hy)
    cases items with
    | nil => simpa using hitem x (List.mem_cons_self ..) rest ts hrest h
    | cons y items =>
      have hx := hitem x (List.mem_cons_self ..) _ _ (hends _) (hsep _ _ htail)
      simpa [List.intercalate_cons_cons] using hx

/-! ## Parsing the tokens of a statement -/

/-- The first of several pieces with a separator between them. -/
lemma intercalate_map_cons_cons {α β : Type} (f : α → List β) (sep : List β) (x y : α)
    (items : List α) :
    sep.intercalate ((x :: y :: items).map f) =
      f x ++ sep ++ sep.intercalate ((y :: items).map f) :=
  List.intercalate_cons_cons

/-- The tokens of an equation between a column and a literal. -/
def equationTokens (equation : String × String) : List Token :=
  [.word equation.1, .symbol '=', .literal equation.2]

/-- Equations joined by `AND` are read back. -/
lemma readConditions_intercalate {conditions : List (String × String)} (h : conditions ≠ []) :
    readConditions ([Token.word "AND"].intercalate (conditions.map equationTokens)) =
      some conditions := by
  induction conditions with
  | nil => exact absurd rfl h
  | cons condition conditions ih =>
    cases conditions with
    | nil => simp [equationTokens, readConditions]
    | cons condition' conditions =>
      rw [intercalate_map_cons_cons]
      simp only [equationTokens, List.cons_append, List.nil_append]
      rw [readConditions, ih (List.cons_ne_nil _ _)]
      rfl

/-- Equations separated by commas are read back, with what follows them.

**Proof sketch.** By induction on the equations; after the last one there is no comma to go on
with. -/
lemma readAssignments_intercalate {assignments : List (String × String)} (h : assignments ≠ [])
    {ts : List Token} (hts : ts.head? ≠ some (.symbol ',')) :
    readAssignments ([Token.symbol ','].intercalate (assignments.map equationTokens) ++ ts) =
      some (assignments, ts) := by
  induction assignments with
  | nil => exact absurd rfl h
  | cons assignment assignments ih =>
    cases assignments with
    | nil =>
      simp only [List.map_cons, List.map_nil, List.intercalate_singleton, equationTokens,
        List.cons_append, List.nil_append]
      rw [readAssignments]
      rintro rest rfl
      exact hts rfl
    | cons assignment' assignments =>
      rw [intercalate_map_cons_cons]
      simp only [equationTokens, List.cons_append, List.nil_append]
      rw [readAssignments, ih (List.cons_ne_nil _ _)]
      rfl

/-- The columns of an `INSERT` are read back, with what follows them. -/
lemma readColumns_intercalate {columns : List String} (h : columns ≠ []) (ts : List Token) :
    readColumns ([Token.symbol ','].intercalate (columns.map fun column => [.word column]) ++
      .symbol ')' :: ts) = some (columns, ts) := by
  induction columns with
  | nil => exact absurd rfl h
  | cons column columns ih =>
    cases columns with
    | nil => simp [readColumns]
    | cons column' columns =>
      rw [intercalate_map_cons_cons]
      simp only [List.cons_append, List.nil_append]
      rw [readColumns, ih (List.cons_ne_nil _ _)]
      rfl

/-- The values of an `INSERT` are read back. -/
lemma readValues_intercalate {values : List String} (h : values ≠ []) :
    readValues ([Token.symbol ','].intercalate (values.map fun value => [.literal value]) ++
      [.symbol ')']) = some values := by
  induction values with
  | nil => exact absurd rfl h
  | cons value values ih =>
    cases values with
    | nil => simp [readValues]
    | cons value' values =>
      rw [intercalate_map_cons_cons]
      simp only [List.cons_append, List.nil_append]
      rw [readValues, ih (List.cons_ne_nil _ _)]
      rfl

end Sql
