import Mathlib.Tactic.Common
import QTradeService.Dao.DmlUtils

set_option relaxedAutoImplicit false
set_option autoImplicit false

/-!
# The statements are read as they are meant

The text of every statement of `Dao.DmlUtils` is read back as the statement on the same table with
the same columns and values, whatever the values are. Conditions on the empty text are not part of
it: `AppendStringEq` skips them.

## Main definitions

* `Dao.conditionsOf` — the conditions that reach the database.

## Main results

* `Dao.read_insert`, `Dao.read_delete`, `Dao.read_update`, `Dao.read_count`, `Dao.read_select`.
-/

namespace Dao

open Sql

/-- The conditions that reach the database. -/
def conditionsOf (whereValues : KeyValues) : KeyValues :=
  whereValues.filter fun keyValue => keyValue.2 ≠ ""

/-- The text of an equation. -/
def equationSql (keyValue : String × String) : String :=
  keyValue.1 ++ " = '" ++ escapeSqlLiteral keyValue.2 ++ "'"

/-- The columns are names. -/
def Columns (values : KeyValues) : Prop := ∀ keyValue ∈ values, IsWord keyValue.1

/-- Conditions that are left out leave names. -/
lemma Columns.conditionsOf {whereValues : KeyValues} (h : Columns whereValues) :
    Columns (conditionsOf whereValues) :=
  fun keyValue hmem => h keyValue (List.mem_of_mem_filter hmem)

/-! ## Pieces -/

/-- `EscapeSqlLiteral` doubles the quotes. -/
lemma toList_escapeSqlLiteral (value : String) :
    (escapeSqlLiteral value).toList = escaped value.toList := by
  rw [escapeSqlLiteral, String.toList_ofList, escaped]
  refine congrArg (List.flatMap · value.toList) (funext fun ch => ?_)
  split
  · next hch => rw [hch]
  · rfl

/-- A literal between its quotes is read back. -/
lemma reads_literal {value : String} {rest : List Char} {ts : List Token}
    (hrest : EndsLiteral rest) (h : Reads rest ts) :
    Reads (("'" ++ escapeSqlLiteral value ++ "'").toList ++ rest) (.literal value :: ts) := by
  have htext : ("'" ++ escapeSqlLiteral value ++ "'").toList ++ rest =
      quote :: (escaped value.toList ++ quote :: rest) := by
    have hquote : "'".toList = [quote] := by decide
    simp [String.toList_append, toList_escapeSqlLiteral, hquote]
  rw [htext]
  exact h.literal hrest

/-- An equation is read back. -/
lemma reads_equation {keyValue : String × String} (hcolumn : IsWord keyValue.1)
    {rest : List Char} {ts : List Token} (hrest : EndsLiteral rest) (h : Reads rest ts) :
    Reads ((equationSql keyValue).toList ++ rest) (equationTokens keyValue ++ ts) := by
  have htext : (equationSql keyValue).toList ++ rest = keyValue.1.toList ++ ' ' :: '=' :: ' ' ::
      (("'" ++ escapeSqlLiteral keyValue.2 ++ "'").toList ++ rest) := by
    simp [equationSql, String.toList_append]
  rw [htext]
  refine Reads.word ?_ hcolumn (.cons (by decide) _)
  refine ((reads_literal hrest h).blank.symbol ?_).blank
  decide

/-- A comma and a blank. -/
lemma reads_comma (rest : List Char) (ts : List Token) (h : Reads rest ts) :
    Reads (", ".toList ++ rest) ([.symbol ','] ++ ts) := by
  have htext : ", ".toList ++ rest = ',' :: ' ' :: rest := by simp
  rw [htext]
  exact h.blank.symbol (by decide)

/-- `AND` between blanks. -/
lemma reads_and (rest : List Char) (ts : List Token) (h : Reads rest ts) :
    Reads (" AND ".toList ++ rest) ([.word "AND"] ++ ts) := by
  have htext : " AND ".toList ++ rest = ' ' :: ("AND".toList ++ ' ' :: rest) := by simp
  rw [htext]
  exact (h.word_blank (by decide)).blank

/-! ## Conditions -/

/-- A condition on the empty text is left out. -/
lemma conditionsOf_cons_of_empty {keyValue : String × String} (h : keyValue.2 = "")
    (whereValues : KeyValues) :
    conditionsOf (keyValue :: whereValues) = conditionsOf whereValues := by
  simp [conditionsOf, h]

/-- Any other condition stays. -/
lemma conditionsOf_cons_of_ne {keyValue : String × String} (h : keyValue.2 ≠ "")
    (whereValues : KeyValues) :
    conditionsOf (keyValue :: whereValues) = keyValue :: conditionsOf whereValues := by
  simp [conditionsOf, h]

/-- `AppendStringEq` skips the empty text. -/
lemma appendStringEq_of_empty {keyValue : String × String} (h : keyValue.2 = "") (sql : String)
    (hasWhere : Bool) : appendStringEq sql keyValue.1 keyValue.2 hasWhere = (sql, hasWhere) :=
  if_pos h

/-- `AppendStringEq` appends any other equation. -/
lemma appendStringEq_of_ne {keyValue : String × String} (h : keyValue.2 ≠ "") (sql : String)
    (hasWhere : Bool) : appendStringEq sql keyValue.1 keyValue.2 hasWhere =
      (sql ++ ((if hasWhere then " AND " else " WHERE ") ++ equationSql keyValue), true) := by
  rw [appendStringEq, if_neg h, equationSql]
  simp only [String.append_assoc]

/-- `BuildWhereSql` after the first equation. -/
lemma foldl_appendStringEq (sql : String) (whereValues : KeyValues) :
    whereValues.foldl
        (fun state keyValue => appendStringEq state.1 keyValue.1 keyValue.2 state.2) (sql, true) =
      (sql ++ String.join ((conditionsOf whereValues).map fun keyValue =>
        " AND " ++ equationSql keyValue), true) := by
  induction whereValues generalizing sql with
  | nil => simp [conditionsOf]
  | cons keyValue whereValues ih =>
    rw [List.foldl_cons]
    by_cases hvalue : keyValue.2 = ""
    · rw [appendStringEq_of_empty hvalue, conditionsOf_cons_of_empty hvalue, ih]
    · rw [appendStringEq_of_ne hvalue, conditionsOf_cons_of_ne hvalue, ih, List.map_cons,
        String.join_cons]
      simp only [if_true, String.append_assoc]

/-- Pieces with a separator, from the first on. -/
lemma intercalate_cons {α : Type} (sep : String) (text : α → String) (x : α) (xs : List α) :
    sep.intercalate ((x :: xs).map text) =
      text x ++ String.join (xs.map fun y => sep ++ text y) := by
  induction xs generalizing x with
  | nil => simp
  | cons y xs ih =>
    have htail := ih y
    simp only [List.map_cons, String.intercalate_cons_cons, String.join_cons] at htail ⊢
    rw [htail]
    simp [String.append_assoc]

/-- `BuildWhereSql` joins the equations that are left. -/
lemma buildWhereSql_eq (whereValues : KeyValues) :
    buildWhereSql whereValues =
      if conditionsOf whereValues = [] then ""
      else " WHERE " ++ " AND ".intercalate ((conditionsOf whereValues).map equationSql) := by
  unfold buildWhereSql
  induction whereValues with
  | nil => simp [conditionsOf]
  | cons keyValue whereValues ih =>
    rw [List.foldl_cons]
    by_cases hvalue : keyValue.2 = ""
    · rw [appendStringEq_of_empty hvalue, conditionsOf_cons_of_empty hvalue, ih]
    · rw [appendStringEq_of_ne hvalue, conditionsOf_cons_of_ne hvalue, foldl_appendStringEq,
        if_neg (List.cons_ne_nil _ _), intercalate_cons]
      simp only [Bool.false_eq_true, if_false, String.empty_append, String.append_assoc]

/-- The equations of a condition are read back. -/
lemma reads_conditions {conditions : KeyValues} (hcolumns : Columns conditions) :
    Reads (" AND ".intercalate (conditions.map equationSql)).toList
      ([Token.word "AND"].intercalate (conditions.map equationTokens)) := by
  have hends (rest : List Char) : EndsLiteral (" AND ".toList ++ rest) := .cons (by decide) _
  have hreads := Reads.intercalate (fun keyValue => (equationSql keyValue).toList) EndsLiteral
    reads_and hends (fun keyValue hmem _ _ => reads_equation (hcolumns keyValue hmem)) .nil .nil
  simpa [Function.comp_def] using hreads

/-- The condition of a statement is read back. What stands before it ends there.

**Proof sketch.** Without conditions the text is empty. Otherwise it starts with a blank, at which
words and literals end, and the conditions are read one by one. -/
lemma reads_where {whereValues : KeyValues} (hcolumns : Columns whereValues) :
    ∃ ts, Reads (buildWhereSql whereValues).toList ts ∧
      readWhere ts = some (conditionsOf whereValues) ∧ ts.head? ≠ some (.symbol ',') ∧
      EndsWord (buildWhereSql whereValues).toList ∧
      EndsLiteral (buildWhereSql whereValues).toList := by
  rw [buildWhereSql_eq]
  by_cases hconditions : conditionsOf whereValues = []
  · rw [if_pos hconditions, hconditions]
    exact ⟨[], .nil, rfl, nofun, .nil, .nil⟩
  · rw [if_neg hconditions]
    have htext : (" WHERE " ++
        " AND ".intercalate ((conditionsOf whereValues).map equationSql)).toList =
          ' ' :: ("WHERE".toList ++ ' ' ::
            (" AND ".intercalate ((conditionsOf whereValues).map equationSql)).toList) := by
      simp [String.toList_append]
    have hreads := ((reads_conditions hcolumns.conditionsOf).word_blank
      (by decide : IsWord "WHERE")).blank
    rw [htext]
    refine ⟨_, hreads, ?_, nofun, .cons (by decide) _, .cons (by decide) _⟩
    exact readConditions_intercalate hconditions

/-! ## Statements -/

/-- The assignments of an `UPDATE` are read back. -/
lemma reads_buildAssignments {values : KeyValues} (hcolumns : Columns values) {rest : List Char}
    {ts : List Token} (hrest : EndsLiteral rest) (h : Reads rest ts) :
    Reads ((buildAssignments values).toList ++ rest)
      ([Token.symbol ','].intercalate (values.map equationTokens) ++ ts) := by
  have hends (rest : List Char) : EndsLiteral (", ".toList ++ rest) := .cons (by decide) _
  have hreads := Reads.intercalate (fun keyValue => (equationSql keyValue).toList) EndsLiteral
    reads_comma hends (fun keyValue hmem _ _ => reads_equation (hcolumns keyValue hmem)) hrest h
  have htext : (buildAssignments values).toList =
      ", ".toList.intercalate (values.map fun keyValue => (equationSql keyValue).toList) := by
    rw [buildAssignments, String.toList_intercalate, List.map_map]
    rfl
  rw [htext]
  exact hreads

/-- The tokens of the column and value lists of an `INSERT`. -/
def insertTokens (values : KeyValues) : List Token :=
  .symbol '(' :: ([Token.symbol ','].intercalate ((values.map Prod.fst).map fun column =>
    [.word column]) ++ .symbol ')' :: .word "VALUES" :: .symbol '(' ::
      ([Token.symbol ','].intercalate ((values.map Prod.snd).map fun value => [.literal value]) ++
        [.symbol ')']))

/-- The column and value lists of an `INSERT` are read back.

**Proof sketch.** From the end of the text backwards: the literals, `VALUES` and its parenthesis,
then the names, each with what ends it. -/
lemma reads_buildInsertColumns {values : KeyValues} (hcolumns : Columns values) :
    Reads (buildInsertColumns values).toList (insertTokens values) := by
  have hliterals : Reads
      (", ".toList.intercalate ((values.map Prod.snd).map fun value =>
        ("'" ++ escapeSqlLiteral value ++ "'").toList) ++ [')'])
      ([Token.symbol ','].intercalate ((values.map Prod.snd).map fun value => [.literal value]) ++
        [.symbol ')']) := by
    have hend : Reads [')'] [.symbol ')'] := Reads.nil.symbol (by decide)
    have hends (rest : List Char) : EndsLiteral (", ".toList ++ rest) := .cons (by decide) _
    exact Reads.intercalate _ EndsLiteral reads_comma hends
      (fun value _ rest ts hrest h => reads_literal hrest h) (.cons (by decide) _) hend
  have hvalues := (((hliterals.symbol (c := '(') (by decide)).word_blank
    (by decide : IsWord "VALUES")).blank).symbol (c := ')') (by decide)
  have hnames : ∀ column ∈ values.map Prod.fst, IsWord column := by
    intro column hcolumn
    obtain ⟨keyValue, hmem, rfl⟩ := List.mem_map.mp hcolumn
    exact hcolumns keyValue hmem
  have hends (rest : List Char) : EndsWord (", ".toList ++ rest) := .cons (by decide) _
  have hword : ∀ column ∈ values.map Prod.fst, ∀ rest ts, EndsWord rest → Reads rest ts →
      Reads (column.toList ++ rest) ([.word column] ++ ts) :=
    fun column hmem rest ts hrest h => h.word (hnames column hmem) hrest
  have hlists := (Reads.intercalate String.toList EndsWord reads_comma hends hword
    (.cons (by decide) _) hvalues).symbol (c := '(') (by decide)
  have htext : (buildInsertColumns values).toList = '(' ::
      (", ".toList.intercalate ((values.map Prod.fst).map String.toList) ++ ')' :: ' ' ::
        ("VALUES".toList ++ ' ' :: '(' ::
          (", ".toList.intercalate ((values.map Prod.snd).map fun value =>
            ("'" ++ escapeSqlLiteral value ++ "'").toList) ++ [')']))) := by
    simp [buildInsertColumns, String.toList_append, Function.comp_def]
  rw [htext]
  exact hlists

/-- An `INSERT` is read back.

**Proof sketch.** The text is split into its tokens word by word, from its end backwards; the two
lists are read from the tokens and zipped together. -/
lemma read_insert {table : String} (htable : IsWord table) {values : KeyValues}
    (hcolumns : Columns values) (hvalues : values ≠ []) :
    read ("INSERT INTO " ++ table ++ " " ++ buildInsertColumns values) =
      some (.insert table values) := by
  have htext : ("INSERT INTO " ++ table ++ " " ++ buildInsertColumns values).toList =
      "INSERT".toList ++ ' ' :: ("INTO".toList ++ ' ' ::
        (table.toList ++ ' ' :: (buildInsertColumns values).toList)) := by
    simp [String.toList_append]
  have hlex : lex ("INSERT INTO " ++ table ++ " " ++ buildInsertColumns values) =
      some (.word "INSERT" :: .word "INTO" :: .word table :: insertTokens values) := by
    rw [lex, htext]
    have hinto := ((reads_buildInsertColumns hcolumns).word_blank htable).word_blank
      (by decide : IsWord "INTO")
    exact hinto.word_blank (by decide)
  rw [Sql.read, hlex]
  have hread : readValues ([Token.symbol ','].intercalate ((values.map Prod.snd).map fun value =>
      [.literal value]) ++ [.symbol ')']) = some (values.map Prod.snd) :=
    readValues_intercalate (by simpa using hvalues)
  have hzip : (values.map Prod.fst).zip (values.map Prod.snd) = values :=
    List.zip_map'.trans (List.map_id values)
  simp only [Option.bind_some, insertTokens, readTokens]
  rw [readColumns_intercalate (by simpa using hvalues)]
  simp only [Option.bind_eq_bind, Option.bind_some, hread, List.length_map, if_true, hzip]

/-- An `UPDATE` is read back.

**Proof sketch.** The text is split into its tokens word by word. The assignments are read up to the
condition, which starts with no comma. -/
lemma read_update {table : String} (htable : IsWord table) {values whereValues : KeyValues}
    (hcolumns : Columns values) (hvalues : values ≠ []) (hwhere : Columns whereValues) :
    read ("UPDATE " ++ table ++ " SET " ++ buildAssignments values ++ buildWhereSql whereValues) =
      some (.update table values (conditionsOf whereValues)) := by
  obtain ⟨ts, hreads, hread, hcomma, -, hends⟩ := reads_where hwhere
  have htext : ("UPDATE " ++ table ++ " SET " ++ buildAssignments values ++
      buildWhereSql whereValues).toList = "UPDATE".toList ++ ' ' :: (table.toList ++ ' ' ::
        ("SET".toList ++ ' ' :: ((buildAssignments values).toList ++
          (buildWhereSql whereValues).toList))) := by
    simp [String.toList_append]
  have hlex : lex ("UPDATE " ++ table ++ " SET " ++ buildAssignments values ++
      buildWhereSql whereValues) = some (.word "UPDATE" :: .word table :: .word "SET" ::
        ([Token.symbol ','].intercalate (values.map equationTokens) ++ ts)) := by
    rw [lex, htext]
    have hset := (reads_buildAssignments hcolumns hends hreads).word_blank
      (by decide : IsWord "SET")
    exact (hset.word_blank htable).word_blank (by decide)
  rw [Sql.read, hlex]
  simp only [Option.bind_some, readTokens]
  rw [readAssignments_intercalate hvalues hcomma]
  simp [hread]

/-- A `DELETE` is read back.

**Proof sketch.** The text is split into its tokens word by word, and the condition is what is
left. -/
lemma read_delete {table : String} (htable : IsWord table) {whereValues : KeyValues}
    (hwhere : Columns whereValues) :
    read ("DELETE FROM " ++ table ++ buildWhereSql whereValues) =
      some (.delete table (conditionsOf whereValues)) := by
  obtain ⟨ts, hreads, hread, -, hends, -⟩ := reads_where hwhere
  have htext : ("DELETE FROM " ++ table ++ buildWhereSql whereValues).toList =
      "DELETE".toList ++ ' ' :: ("FROM".toList ++ ' ' ::
        (table.toList ++ (buildWhereSql whereValues).toList)) := by
    simp [String.toList_append]
  have hlex : lex ("DELETE FROM " ++ table ++ buildWhereSql whereValues) =
      some (.word "DELETE" :: .word "FROM" :: .word table :: ts) := by
    rw [lex, htext]
    have hfrom := (hreads.word htable hends).word_blank (by decide : IsWord "FROM")
    exact hfrom.word_blank (by decide)
  rw [Sql.read, hlex]
  simp [readTokens, hread]

/-- A `SELECT` is read back.

**Proof sketch.** As for `read_delete`. -/
lemma read_select {table : String} (htable : IsWord table) {whereValues : KeyValues}
    (hwhere : Columns whereValues) :
    read ("SELECT * FROM " ++ table ++ buildWhereSql whereValues) =
      some (.select table (conditionsOf whereValues)) := by
  obtain ⟨ts, hreads, hread, -, hends, -⟩ := reads_where hwhere
  have htext : ("SELECT * FROM " ++ table ++ buildWhereSql whereValues).toList =
      "SELECT".toList ++ ' ' :: '*' :: ' ' :: ("FROM".toList ++ ' ' ::
        (table.toList ++ (buildWhereSql whereValues).toList)) := by
    simp [String.toList_append]
  have hlex : lex ("SELECT * FROM " ++ table ++ buildWhereSql whereValues) =
      some (.word "SELECT" :: .symbol '*' :: .word "FROM" :: .word table :: ts) := by
    rw [lex, htext]
    have hfrom := (hreads.word htable hends).word_blank (by decide : IsWord "FROM")
    exact (hfrom.blank.symbol (by decide)).word_blank (by decide)
  rw [Sql.read, hlex]
  simp [readTokens, hread]

/-- A `SELECT COUNT` is read back.

**Proof sketch.** As for `read_delete`, with the label of the count. -/
lemma read_count {table : String} (htable : IsWord table) {whereValues : KeyValues}
    (hwhere : Columns whereValues) :
    read ("SELECT COUNT(*) AS cnt FROM " ++ table ++ buildWhereSql whereValues) =
      some (.count "cnt" table (conditionsOf whereValues)) := by
  obtain ⟨ts, hreads, hread, -, hends, -⟩ := reads_where hwhere
  have htext : ("SELECT COUNT(*) AS cnt FROM " ++ table ++ buildWhereSql whereValues).toList =
      "SELECT".toList ++ ' ' :: ("COUNT".toList ++ '(' :: '*' :: ')' :: ' ' ::
        ("AS".toList ++ ' ' :: ("cnt".toList ++ ' ' :: ("FROM".toList ++ ' ' ::
          (table.toList ++ (buildWhereSql whereValues).toList))))) := by
    simp [String.toList_append]
  have hlex : lex ("SELECT COUNT(*) AS cnt FROM " ++ table ++ buildWhereSql whereValues) =
      some (.word "SELECT" :: .word "COUNT" :: .symbol '(' :: .symbol '*' :: .symbol ')' ::
        .word "AS" :: .word "cnt" :: .word "FROM" :: .word table :: ts) := by
    rw [lex, htext]
    have hfrom := (hreads.word htable hends).word_blank (by decide : IsWord "FROM")
    have has := (hfrom.word_blank (by decide : IsWord "cnt")).word_blank (by decide : IsWord "AS")
    have hstar := ((has.blank.symbol (c := ')') (by decide)).symbol (c := '*') (by decide)).symbol
      (c := '(') (by decide)
    exact (hstar.word (by decide) (.cons (by decide) _)).word_blank (by decide)
  rw [Sql.read, hlex]
  simp [readTokens, hread]

end Dao
