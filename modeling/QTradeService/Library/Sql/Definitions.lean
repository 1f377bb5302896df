import QTradeService.Library.Sql.Tables

set_option relaxedAutoImplicit false
set_option autoImplicit false

/-!
# Statements that declare tables

`CREATE TABLE IF NOT EXISTS` and `CREATE INDEX IF NOT EXISTS`, as a service executes them each
time it starts. The tables of a database are its schema; executed on a schema, such a statement
adds a table that is not there, and nothing else.

## Main definitions

* `Sql.Definition`, `Sql.readDefinition` — the statements, and the reading of their texts.
* `Sql.Schema.define` — what they do to the tables of a database.
* `Sql.Schema.Has`, `Sql.Schema.Admissible` — a table is declared as expected, or not declared.

## Main results

* `Sql.Schema.Has.define` — a table that is there is left alone.
* `Sql.Schema.Admissible.has_define`, `Sql.Schema.Admissible.define` — what a statement declares is
  there, and there is still room for what it does not declare.
-/

namespace Sql

/-! ## Texts -/

/-- A column of a table: its name and its type. -/
structure Column where
  name : String
  type : String
  deriving DecidableEq, Repr

/-- A statement that declares something unless it exists. -/
inductive Definition
  | createTable (name : String) (columns : List Column) (primaryKey : List String)
  | createIndex (name table : String) (columns : List String)
  deriving DecidableEq, Repr

/-- The columns of a table, each with a comment, up to its primary key, which ends the text. -/
def readDeclarations : List Token → Option (List Column × List String)
  | .word "PRIMARY" :: .word "KEY" :: .symbol '(' :: rest =>
    match readColumns rest with
    | some (primaryKey, [.symbol ')', .symbol ';']) => some ([], primaryKey)
    | _ => none
  | .word name :: .word type :: .word "NOT" :: .word "NULL" :: .word "COMMENT" :: .literal _ ::
      .symbol ',' :: rest =>
    (readDeclarations rest).map fun (columns, primaryKey) => (⟨name, type⟩ :: columns, primaryKey)
  | _ => none

/-- The definition that a list of tokens stands for. -/
def readDefinitionTokens : List Token → Option Definition
  | .word "CREATE" :: .word "TABLE" :: .word "IF" :: .word "NOT" :: .word "EXISTS" ::
      .word name :: .symbol '(' :: rest =>
    (readDeclarations rest).map fun (columns, primaryKey) => .createTable name columns primaryKey
  | .word "CREATE" :: .word "INDEX" :: .word "IF" :: .word "NOT" :: .word "EXISTS" ::
      .word name :: .word "ON" :: .word table :: .symbol '(' :: rest =>
    match readColumns rest with
    | some (columns, [.symbol ';']) => some (.createIndex name table columns)
    | _ => none
  | _ => none

/-- The definition that a text stands for. -/
def readDefinition (text : String) : Option Definition := (lex text).bind readDefinitionTokens

/-- The reading of a text that is given by its characters. -/
lemma readDefinition_ofList (text : List Char) :
    readDefinition (String.ofList text) = (lexFrom .between text).bind readDefinitionTokens := by
  rw [readDefinition, lex, String.toList_ofList]

/-! ## What they do -/

deriving instance DecidableEq for TableSchema

/-- The types of integers. -/
def integerTypes : List String := ["INTEGER", "BIGINT"]

/-- A table with the given columns. -/
def tableOf (columns : List Column) (primaryKey : List String) : TableSchema where
  columns := columns.map Column.name
  integers := (columns.filter fun column => column.type ∈ integerTypes).map Column.name
  primaryKey := primaryKey

/-- The table that a definition declares. -/
def Definition.declares : Definition → Option (String × TableSchema)
  | .createTable name columns primaryKey => some (name, tableOf columns primaryKey)
  | .createIndex .. => none

namespace Schema

/-- Execute a definition. An index makes no difference to the tables. -/
def define (schema : Schema) (definition : Definition) : Schema :=
  match definition.declares with
  | none => schema
  | some (name, table) => fun other =>
    if other = name ∧ schema name = none then some table else schema other

/-- The table is declared as expected. -/
def Has (schema : Schema) (table : String × TableSchema) : Prop :=
  schema table.1 = some table.2

/-- The table is declared as expected or not at all. -/
def Admissible (schema : Schema) (table : String × TableSchema) : Prop :=
  schema table.1 = none ∨ schema.Has table

/-- No name stands for one table here and for another one there. -/
def Agrees (schema schema' : Schema) : Prop :=
  ∀ name, schema name = none ∨ schema' name = none ∨ schema name = schema' name

/-- The tables of two schemas. -/
def union (schema schema' : Schema) : Schema := fun name => (schema name).or (schema' name)

variable {schema : Schema} {definition : Definition} {table : String × TableSchema} {name : String}

/-- A definition does not touch a table that it does not declare. -/
lemma define_of_ne (h : ∀ declared ∈ definition.declares, declared.1 ≠ name) :
    schema.define definition name = schema name := by
  unfold define
  cases hdeclares : definition.declares with
  | none => rfl
  | some declared => exact if_neg fun hname => h declared hdeclares hname.1.symm

/-- A definition does not touch a table that is there. -/
lemma define_of_ne_none (h : schema name ≠ none) :
    schema.define definition name = schema name := by
  unfold define
  cases definition.declares with
  | none => rfl
  | some declared =>
    refine if_neg fun hname => h ?_
    rw [hname.1]
    exact hname.2

/-- A table that is declared as expected stays so. -/
lemma Has.define (h : schema.Has table) : (schema.define definition).Has table :=
  (define_of_ne_none (by rw [h]; nofun)).trans h

/-- A definition declares its table unless there is another one under its name. -/
lemma Admissible.has_define (h : schema.Admissible table)
    (hdeclares : definition.declares = some table) : (schema.define definition).Has table := by
  rcases h with hnone | hhas
  · simp [Has, Schema.define, hdeclares, hnone]
  · exact hhas.define

/-- A definition that may declare this table under its name, and no other one, leaves room for
it. -/
lemma Admissible.define (h : schema.Admissible table)
    (hagree : ∀ declared ∈ definition.declares, declared.1 = table.1 → declared = table) :
    (schema.define definition).Admissible table := by
  by_cases hdeclares : definition.declares = some table
  · exact .inr (h.has_define hdeclares)
  · have hother : ∀ declared ∈ definition.declares, declared.1 ≠ table.1 :=
      fun declared hdeclared hname => hdeclares (hagree declared hdeclared hname ▸ hdeclared)
    unfold Admissible Has
    rwa [define_of_ne hother]

end Schema

end Sql
