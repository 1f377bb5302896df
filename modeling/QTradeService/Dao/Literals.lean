import QTradeService.Dao.Rendering
import QTradeService.Library.Sql.Backslash

set_option relaxedAutoImplicit false
set_option autoImplicit false

/-!
# The literals of a statement

`EscapeSqlLiteral` doubles the quotes of a value, and the functions that build the parts of a
statement write the result between quotes. A lexer for which a doubled quote is the only escape
reads every value back, whatever it is. The lexer of MySQL, for which the services are
configured, knows backslash escapes as well; it reads a value back exactly if each backslash in
it is one that it keeps.

## Main definitions

* `Dao.readInsertColumns`, `Dao.readAssignmentList` — readers for the parts of a statement.
* `Dao.shape` — the structure of a text, with its literals blanked out.
* `Dao.LiteralIntact` — the MySQL lexer reads the literal as it is meant.

## Main results

* `Dao.rendering_decodes` — with the doubled quote as the only escape, all values are read back.
* `Dao.literal_intact_iff` — exactly which values the MySQL lexer reads back.
* `Dao.backslash_takes_quote` — a backslash rewrites the statement.
-/

namespace Dao

open Sql

/-! ## Readers -/

/-- The columns and values in the text of an `INSERT` after its table. -/
def readInsertColumns (text : String) : Option KeyValues := do
  match ← lex text with
  | .symbol '(' :: rest =>
    let (columns, rest) ← readColumns rest
    match rest with
    | .word "VALUES" :: .symbol '(' :: rest =>
      let values ← readValues rest
      if columns.length = values.length then some (columns.zip values) else none
    | _ => none
  | _ => none

/-- The assignments in the text between the `SET` of an `UPDATE` and its condition. -/
def readAssignmentList (text : String) : Option KeyValues := do
  let (assignments, rest) ← readAssignments (← lex text)
  if rest = [] then some assignments else none

/-- The tokens of a text with the values of the literals blanked out. -/
def shape (tokens : List Token) : List Token :=
  tokens.map fun token =>
    match token with
    | .literal _ => .literal ""
    | token => token

instance (values : KeyValues) : Decidable (Columns values) :=
  inferInstanceAs (Decidable (∀ keyValue ∈ values, IsWord keyValue.1))

/-! ## Quotes as the only escape -/

/-- The tokens of `BuildAssignments`. -/
lemma lex_buildAssignments {values : KeyValues} (hcolumns : Columns values) :
    lex (buildAssignments values) =
      some ([Token.symbol ','].intercalate (values.map equationTokens)) := by
  have hreads := reads_buildAssignments hcolumns .nil .nil
  rw [List.append_nil, List.append_nil] at hreads
  exact hreads

/-- `BuildInsertColumns` is read back.

**Proof sketch.** The text is split into its tokens. The lists of columns and of values are read one
after the other, and zipped together. -/
lemma readInsertColumns_buildInsertColumns {values : KeyValues} (hne : values ≠ [])
    (hcolumns : Columns values) : readInsertColumns (buildInsertColumns values) = some values := by
  have hlex : lex (buildInsertColumns values) = some (insertTokens values) :=
    reads_buildInsertColumns hcolumns
  have hfst : values.map Prod.fst ≠ [] := by simpa using hne
  have hsnd : values.map Prod.snd ≠ [] := by simpa using hne
  have hcols := readColumns_intercalate hfst (.word "VALUES" :: .symbol '(' ::
    ([Token.symbol ','].intercalate ((values.map Prod.snd).map fun value => [.literal value]) ++
      [.symbol ')']))
  have hvals := readValues_intercalate hsnd
  have hzip : (values.map Prod.fst).zip (values.map Prod.snd) = values :=
    List.zip_map'.trans (List.map_id values)
  rw [readInsertColumns, hlex]
  simp only [insertTokens, Option.bind_eq_bind, Option.bind_some, hcols, hvals, List.length_map,
    if_true, hzip]

/-- `BuildAssignments` is read back. -/
lemma readAssignmentList_buildAssignments {values : KeyValues} (hne : values ≠ [])
    (hcolumns : Columns values) :
    readAssignmentList (buildAssignments values) = some values := by
  have hread : readAssignments ([Token.symbol ','].intercalate (values.map equationTokens) ++ []) =
      some (values, []) := readAssignments_intercalate hne nofun
  rw [List.append_nil] at hread
  rw [readAssignmentList, lex_buildAssignments hcolumns]
  simp only [Option.bind_eq_bind, Option.bind_some, hread, if_true]

/-- The shape of pieces with a separator between them. -/
lemma shape_intercalate (sep : List Token) (pieces : List (List Token)) :
    shape (sep.intercalate pieces) = (shape sep).intercalate (pieces.map shape) := by
  induction pieces with
  | nil => rfl
  | cons piece pieces ih =>
    cases pieces with
    | nil => simp
    | cons piece' pieces =>
      have happend : ∀ xs ys : List Token, shape (xs ++ ys) = shape xs ++ shape ys :=
        fun xs ys => List.map_append
      rw [List.intercalate_cons_cons, happend, happend, ih]
      simp only [List.map_cons, List.intercalate_cons_cons]

/-- The shape of an `INSERT` depends on its columns alone.

**Proof sketch.** The shape blanks the literals, so that of the values only their number is left,
and that is the number of the columns. -/
lemma shape_insertTokens {values other : KeyValues}
    (h : other.map Prod.fst = values.map Prod.fst) :
    shape (insertTokens other) = shape (insertTokens values) := by
  have hlen : other.length = values.length := by
    simpa using congrArg List.length h
  have hliterals : ∀ l : KeyValues,
      shape ([Token.symbol ','].intercalate ((l.map Prod.snd).map fun value => [.literal value])) =
        [Token.symbol ','].intercalate (List.replicate l.length [.literal ""]) := by
    intro l
    rw [shape_intercalate, List.map_map, List.map_map]
    have hconst : (shape ∘ fun value => [Token.literal value]) ∘ Prod.snd =
        fun _ : String × String => [Token.literal ""] := rfl
    rw [hconst, List.map_const']
    rfl
  have hunfold : ∀ l : KeyValues, shape (insertTokens l) = .symbol '(' ::
      (shape ([Token.symbol ','].intercalate ((l.map Prod.fst).map fun column => [.word column])) ++
        .symbol ')' :: .word "VALUES" :: .symbol '(' ::
        (shape ([Token.symbol ','].intercalate ((l.map Prod.snd).map fun value =>
          [.literal value])) ++ [.symbol ')'])) := by
    intro l
    simp [insertTokens, shape]
  rw [hunfold, hunfold, hliterals, hliterals, h, hlen]

/-- The shape of assignments depends on the columns alone. -/
lemma shape_assignments {values other : KeyValues}
    (h : other.map Prod.fst = values.map Prod.fst) :
    shape ([Token.symbol ','].intercalate (other.map equationTokens)) =
      shape ([Token.symbol ','].intercalate (values.map equationTokens)) := by
  have hequations : ∀ l : KeyValues, (l.map equationTokens).map shape =
      (l.map Prod.fst).map fun column => [.word column, .symbol '=', .literal ""] := by
    intro l
    rw [List.map_map, List.map_map]
    rfl
  rw [shape_intercalate, shape_intercalate, hequations, hequations, h]

/-- **The rendering decodes back.** For every nonempty list of columns, which are names, with
arbitrary values, a reader with the doubled quote as the only escape reads `BuildInsertColumns`
back as the same columns and values and `BuildAssignments` back as the same assignments. So two
lists with the same text are equal, lists with the same columns give texts of the same shape, and
whatever follows a literal, other than a quote, the literal ends at its closing quote.

**Proof sketch.** The inside of a literal is read back for every continuation, by induction on
the value (`Sql.lexFrom_escaped`). The text is then read from its end to its beginning, and the
parser undoes the separators. -/
theorem rendering_decodes (values : KeyValues) (hne : values ≠ []) (hcolumns : Columns values) :
    readInsertColumns (buildInsertColumns values) = some values ∧
    readAssignmentList (buildAssignments values) = some values ∧
    (∀ other, other ≠ [] → Columns other →
      (buildInsertColumns other = buildInsertColumns values → other = values) ∧
      (buildAssignments other = buildAssignments values → other = values)) ∧
    (∀ other, other.map Prod.fst = values.map Prod.fst →
      (lex (buildInsertColumns other)).map shape = (lex (buildInsertColumns values)).map shape ∧
      (lex (buildAssignments other)).map shape = (lex (buildAssignments values)).map shape) ∧
    ∀ value rest, EndsLiteral rest →
      lexFrom (.inLiteral []) ((escapeSqlLiteral value).toList ++ quote :: rest) =
        (lexFrom .between rest).map fun ts => .literal value :: ts := by
  have hinsert := readInsertColumns_buildInsertColumns hne hcolumns
  have hassign := readAssignmentList_buildAssignments hne hcolumns
  refine ⟨hinsert, hassign, ?_, ?_, ?_⟩
  · intro other hother hnames
    constructor
    · intro htext
      rw [← htext, readInsertColumns_buildInsertColumns hother hnames] at hinsert
      exact Option.some.inj hinsert
    · intro htext
      rw [← htext, readAssignmentList_buildAssignments hother hnames] at hassign
      exact Option.some.inj hassign
  · intro other hother
    have hnames : Columns other := by
      intro keyValue hmem
      have hfst : keyValue.1 ∈ values.map Prod.fst := hother ▸ List.mem_map_of_mem hmem
      obtain ⟨keyValue', hmem', hcolumn⟩ := List.mem_map.mp hfst
      exact hcolumn ▸ hcolumns keyValue' hmem'
    have hlex : ∀ {l : KeyValues}, Columns l → lex (buildInsertColumns l) = some (insertTokens l) :=
      reads_buildInsertColumns
    constructor
    · rw [hlex hnames, hlex hcolumns, Option.map_some, Option.map_some, shape_insertTokens hother]
    · rw [lex_buildAssignments hnames, lex_buildAssignments hcolumns, Option.map_some,
        Option.map_some, shape_assignments hother]
  · intro value rest hrest
    rw [toList_escapeSqlLiteral, lexFrom_escaped, List.nil_append, lexFrom_afterQuote hrest,
      String.ofList_toList]

/-- Values made of quotes and separators, and an empty one. -/
theorem rendering_decodes_sample :
    readInsertColumns (buildInsertColumns [("account_id", "a', 'b') -- "), ("remark", "")]) =
      some [("account_id", "a', 'b') -- "), ("remark", "")] :=
  (rendering_decodes [("account_id", "a', 'b') -- "), ("remark", "")] nofun (by decide)).1

/-! ## Backslashes as escapes -/

/-- The MySQL lexer, after the opening quote, reads the literal of the value in front of the rest
of the text as it is meant: it denotes the value and ends at the closing quote written after it. -/
def LiteralIntact (value : String) (rest : List Char) : Prop :=
  MySql.readLiteral ((escapeSqlLiteral value).toList ++ quote :: rest) = some (value.toList, rest)

/-- Exactly which values are read as they are meant. -/
lemma literalIntact_iff {value : String} {rest : List Char} :
    LiteralIntact value rest ↔ MySql.BackslashesKept value.toList ∧ EndsLiteral rest := by
  rw [LiteralIntact, toList_escapeSqlLiteral, MySql.readLiteral_escaped_iff]

/-- Pieces with a separator between them, around one of them.

**Proof sketch.** By induction on the pieces before the one in question. -/
lemma intercalate_around {τ : Type} (sep : String) (text : τ → String) (pre : List τ) (x : τ)
    (post : List τ) :
    sep.intercalate ((pre ++ x :: post).map text) =
      String.join (pre.map fun y => text y ++ sep) ++ text x ++
        String.join (post.map fun y => sep ++ text y) := by
  induction pre with
  | nil =>
    rw [List.nil_append, intercalate_cons, List.map_nil, String.join_nil, String.empty_append]
  | cons y pre ih =>
    have hcons : ∀ zs : List τ, zs ≠ [] → sep.intercalate ((y :: zs).map text) =
        text y ++ sep ++ sep.intercalate (zs.map text) := by
      intro zs hzs
      cases zs with
      | nil => exact absurd rfl hzs
      | cons z zs => simp only [List.map_cons, String.intercalate_cons_cons]
    rw [List.cons_append, hcons _ (by simp), ih, List.map_cons, String.join_cons]
    simp only [String.append_assoc]

/-- What follows a literal in a list ends it: another separator, or what follows the list. -/
lemma endsLiteral_join {τ : Type} {sep : String} {c : Char} {cs : List Char}
    (hsep : sep.toList = c :: cs) (hc : c ≠ quote) (text : τ → String) (post : List τ)
    {tail : String} (htail : EndsLiteral tail.toList) :
    EndsLiteral (String.join (post.map fun y => sep ++ text y) ++ tail).toList := by
  cases post with
  | nil => simpa using htail
  | cons y post =>
    rw [List.map_cons, String.join_cons, String.toList_append, String.toList_append,
      String.toList_append, hsep]
    exact .cons hc _

/-- The condition of a statement ends a literal in front of it. -/
lemma endsLiteral_buildWhereSql (whereValues : KeyValues) :
    EndsLiteral (buildWhereSql whereValues).toList := by
  rw [buildWhereSql_eq]
  split_ifs
  · exact .nil
  · have hwhere : " WHERE ".toList = ' ' :: "WHERE ".toList := by decide
    rw [String.toList_append, hwhere]
    exact .cons (by decide) _

/-- A value in the list of an `INSERT`, and the text around its literal. -/
lemma buildInsertColumns_around (pre post : KeyValues) (column value : String) :
    buildInsertColumns (pre ++ (column, value) :: post) =
      "(" ++ ", ".intercalate ((pre ++ (column, value) :: post).map Prod.fst) ++ ") VALUES (" ++
        String.join (pre.map fun keyValue => "'" ++ escapeSqlLiteral keyValue.2 ++ "'" ++ ", ") ++
        "'" ++ escapeSqlLiteral value ++ "'" ++
        (String.join (post.map fun keyValue =>
          ", " ++ ("'" ++ escapeSqlLiteral keyValue.2 ++ "'")) ++ ")") := by
  have haround := intercalate_around ", "
    (fun keyValue : String × String => "'" ++ escapeSqlLiteral keyValue.2 ++ "'") pre
    (column, value) post
  unfold buildInsertColumns
  rw [haround]
  simp only [String.append_assoc]

/-- An assignment of an `UPDATE`, and the text around its literal. -/
lemma buildAssignments_around (pre post : KeyValues) (column value : String) :
    buildAssignments (pre ++ (column, value) :: post) =
      String.join (pre.map fun keyValue => equationSql keyValue ++ ", ") ++ column ++ " = '" ++
        escapeSqlLiteral value ++ "'" ++
        String.join (post.map fun keyValue => ", " ++ equationSql keyValue) := by
  have haround := intercalate_around ", " equationSql pre (column, value) post
  have hbuild : buildAssignments (pre ++ (column, value) :: post) =
      ", ".intercalate ((pre ++ (column, value) :: post).map equationSql) := rfl
  rw [hbuild, haround, equationSql]
  simp only [String.append_assoc]

/-- A condition, and the text around its literal. -/
lemma buildWhereSql_around (pre post : KeyValues) (column : String) {value : String}
    (hvalue : value ≠ "") :
    buildWhereSql (pre ++ (column, value) :: post) =
      " WHERE " ++ String.join ((conditionsOf pre).map fun keyValue =>
        equationSql keyValue ++ " AND ") ++ column ++ " = '" ++ escapeSqlLiteral value ++ "'" ++
        String.join ((conditionsOf post).map fun keyValue => " AND " ++ equationSql keyValue) := by
  have hconditions : conditionsOf (pre ++ (column, value) :: post) =
      conditionsOf pre ++ (column, value) :: conditionsOf post := by
    unfold conditionsOf
    rw [List.filter_append, List.filter_cons_of_pos (by simpa using hvalue)]
  have haround := intercalate_around " AND " equationSql (conditionsOf pre) (column, value)
    (conditionsOf post)
  rw [buildWhereSql_eq, hconditions, if_neg (by simp), haround, equationSql]
  simp only [String.append_assoc]

/-- **Which values survive the MySQL lexer.** In front of any rest of the text, the literal of a
value is read as one that denotes the value and ends at its closing quote exactly if every
backslash in the value stands directly before a `%` or a `_`, and the rest does not begin with a
quote. What `BuildInsertColumns`, `BuildAssignments` and `AppendStringEq` write after a literal
never begins with a quote, so that there the condition on the backslashes decides alone.

**Proof sketch.** If all backslashes are kept, induction on the value. If the literal ends at
its closing quote, the lexer was never left between the two quotes of a doubled one, so that it
denotes at most as many characters as the value has, and loses one with every backslash that is
not kept (`Sql.MySql.length_of_readLiteral_escaped`). -/
theorem literal_intact_iff (value : String) :
    (∀ rest, LiteralIntact value rest ↔
      MySql.BackslashesKept value.toList ∧ EndsLiteral rest) ∧
    (∀ pre column post, ∃ after : String,
      buildInsertColumns (pre ++ (column, value) :: post) =
        "(" ++ ", ".intercalate ((pre ++ (column, value) :: post).map Prod.fst) ++ ") VALUES (" ++
          String.join (pre.map fun keyValue =>
            "'" ++ escapeSqlLiteral keyValue.2 ++ "'" ++ ", ") ++
          "'" ++ escapeSqlLiteral value ++ "'" ++ after ∧
      (LiteralIntact value after.toList ↔ MySql.BackslashesKept value.toList)) ∧
    (∀ pre column post whereValues, ∃ after : String,
      buildAssignments (pre ++ (column, value) :: post) ++ buildWhereSql whereValues =
        String.join (pre.map fun keyValue => equationSql keyValue ++ ", ") ++ column ++ " = '" ++
          escapeSqlLiteral value ++ "'" ++ after ∧
      (LiteralIntact value after.toList ↔ MySql.BackslashesKept value.toList)) ∧
    ∀ pre column post, value ≠ "" → ∃ after : String,
      buildWhereSql (pre ++ (column, value) :: post) =
        " WHERE " ++ String.join ((conditionsOf pre).map fun keyValue =>
          equationSql keyValue ++ " AND ") ++ column ++ " = '" ++
          escapeSqlLiteral value ++ "'" ++ after ∧
      (LiteralIntact value after.toList ↔ MySql.BackslashesKept value.toList) := by
  have hintact : ∀ {after : String}, EndsLiteral after.toList →
      (LiteralIntact value after.toList ↔ MySql.BackslashesKept value.toList) :=
    fun hafter => literalIntact_iff.trans (and_iff_left hafter)
  have hcomma : ", ".toList = [',', ' '] := by decide
  have hand : " AND ".toList = ' ' :: "AND ".toList := by decide
  refine ⟨fun rest => literalIntact_iff, ?_, ?_, ?_⟩
  · intro pre column post
    have hparen : EndsLiteral ")".toList := .cons (by decide) _
    exact ⟨_, buildInsertColumns_around pre post column value,
      hintact (endsLiteral_join hcomma (by decide) _ post hparen)⟩
  · intro pre column post whereValues
    refine ⟨_, ?_, hintact (endsLiteral_join hcomma (by decide) equationSql post
      (endsLiteral_buildWhereSql whereValues))⟩
    rw [buildAssignments_around]
    simp only [String.append_assoc]
  · intro pre column post hvalue
    have hend : EndsLiteral "".toList := .nil
    refine ⟨_, ?_, hintact (endsLiteral_join hand (by decide) equationSql (conditionsOf post)
      hend)⟩
    rw [buildWhereSql_around pre post column hvalue, String.append_empty]

/-- A backslash as the account takes the closing quote of its literal: the MySQL lexer reads on to
the opening quote of the next value, whose text it then reads as part of the statement. -/
theorem backslash_takes_quote :
    buildWhereSql [("account_id", "\\"), ("account_name", " OR 1=1 -- ")] =
      " WHERE account_id = '" ++ escapeSqlLiteral "\\" ++ "'" ++
        " AND account_name = ' OR 1=1 -- '" ∧
    MySql.readLiteral ((escapeSqlLiteral "\\").toList ++
        quote :: " AND account_name = ' OR 1=1 -- '".toList) =
      some ("' AND account_name = ".toList, " OR 1=1 -- '".toList) ∧
    ¬∀ value rest, LiteralIntact value rest := by
  have hread : MySql.readLiteral ((escapeSqlLiteral "\\").toList ++
        quote :: " AND account_name = ' OR 1=1 -- '".toList) =
      some ("' AND account_name = ".toList, " OR 1=1 -- '".toList) := by decide +kernel
  refine ⟨by decide +kernel, hread, fun h => ?_⟩
  have hintact := h "\\" " AND account_name = ' OR 1=1 -- '".toList
  rw [LiteralIntact, hread] at hintact
  exact absurd hintact (by decide +kernel)

end Dao
