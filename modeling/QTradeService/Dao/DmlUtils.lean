import QTradeService.Database.Connection
import QTradeService.Grpc.HandlerInterface

set_option relaxedAutoImplicit false
set_option autoImplicit false

/-!
# The shared part of the data access objects

`sql_utils.cpp` and `dml_utils.cpp`: the text of the statements on one table, and the functions
that execute it on a connection.

## Main definitions

* `Dao.escapeSqlLiteral`, `Dao.buildInsertColumns`, `Dao.buildAssignments`, `Dao.buildWhereSql` —
  the parts of the statements.
* `Dao.insertRow`, `Dao.deleteRows`, `Dao.updateRows`, `Dao.countRows`, `Dao.selectRows`,
  `Dao.truncateRows` — the statements.
-/

namespace Dao

open Database

/-- Column names with the values for them. -/
abbrev KeyValues := List (String × String)

/-! ## SQL text -/

/-- `EscapeSqlLiteral`: double the quotes. -/
def escapeSqlLiteral (value : String) : String :=
  String.ofList (value.toList.flatMap fun ch => if ch = Sql.quote then [ch, ch] else [ch])

/-- `AppendStringEq`: append an equation to the condition. An empty value is skipped. -/
def appendStringEq (sql : String) (column value : String) (hasWhere : Bool) : String × Bool :=
  if value = "" then (sql, hasWhere)
  else
    (sql ++ (if hasWhere then " AND " else " WHERE ") ++ column ++ " = '" ++
      escapeSqlLiteral value ++ "'", true)

/-- `BuildWhereSql`. -/
def buildWhereSql (whereValues : KeyValues) : String :=
  (whereValues.foldl
    (fun state keyValue => appendStringEq state.1 keyValue.1 keyValue.2 state.2) ("", false)).1

/-- `BuildAssignments`: `col1 = 'v1', col2 = 'v2'`. -/
def buildAssignments (values : KeyValues) : String :=
  ", ".intercalate (values.map fun keyValue =>
    keyValue.1 ++ " = '" ++ escapeSqlLiteral keyValue.2 ++ "'")

/-- `BuildInsertColumns`: `(col1, col2) VALUES ('v1', 'v2')`. -/
def buildInsertColumns (values : KeyValues) : String :=
  let columns := ", ".intercalate (values.map Prod.fst)
  let placeholders :=
    ", ".intercalate (values.map fun keyValue => "'" ++ escapeSqlLiteral keyValue.2 ++ "'")
  "(" ++ columns ++ ") VALUES (" ++ placeholders ++ ")"

/-! ## Records and rows -/

/-- `AddTextValue`: append a field that has a value. -/
def addTextValue (out : KeyValues) (column : String) (value : Option String) : KeyValues :=
  match value with
  | some value => out ++ [(column, value)]
  | none => out

/-- `AddInt64Value`: append an integer field that has a value. -/
def addInt64Value (out : KeyValues) (column : String) (value : Option ℤ) : KeyValues :=
  match value with
  | some value => out ++ [(column, toString value)]
  | none => out

/-- `AddUInt64Value`: append an unsigned field that has a value. -/
def addUInt64Value (out : KeyValues) (column : String) (value : Option ℕ) : KeyValues :=
  match value with
  | some value => out ++ [(column, toString value)]
  | none => out

/-- `AssignTextField`, for a field that has no value yet. -/
def assignTextField (row : ResultRow) (column : String) : Option String :=
  (row column).bind Cell.asString

/-- `AssignInt64Field`, for a field that has no value yet. -/
def assignInt64Field (row : ResultRow) (column : String) : Option ℤ :=
  (row column).bind Cell.asInt64

/-- `AssignUInt64Field`, for a field that has no value yet. The cell is read as a signed integer and
cast. -/
def assignUInt64Field (row : ResultRow) (column : String) : Option ℕ :=
  ((row column).bind Cell.asInt64).map fun value => (BitVec.ofInt 64 value).toNat

/-! ## Statements on a connection -/

/-- `DbFailureResult`: the last error of the connection. -/
def dbFailureResult {α : Type} : Db (Result α) := do
  let message ← lastError
  return .void .kSystemError message

/-- `InsertRow`. -/
def insertRow (table : String) (values : KeyValues) : Db (Result ℤ) := do
  if !(← isConnected) || values.isEmpty then
    return .void .kSystemError "database connection is unavailable or values are empty"
  let sql := "INSERT INTO " ++ table ++ " " ++ buildInsertColumns values
  match ← execute sql with
  | none => dbFailureResult
  | some _ => return ⟨.kSuccess, "", some 1⟩

/-- `DeleteRows`. -/
def deleteRows (table : String) (whereValues : KeyValues) : Db (Result ℤ) := do
  if !(← isConnected) || whereValues.isEmpty then
    return .void .kSystemError "database connection is unavailable or condition is empty"
  let sql := "DELETE FROM " ++ table ++ buildWhereSql whereValues
  match ← execute sql with
  | none => dbFailureResult
  | some affectedRows => return ⟨.kSuccess, "", some affectedRows⟩

/-- `UpdateRows`. -/
def updateRows (table : String) (values whereValues : KeyValues) : Db (Result ℤ) := do
  if !(← isConnected) || values.isEmpty || whereValues.isEmpty then
    return .void .kSystemError "database connection is unavailable or input is empty"
  let sql := "UPDATE " ++ table ++ " SET " ++ buildAssignments values ++ buildWhereSql whereValues
  match ← execute sql with
  | none => dbFailureResult
  | some affectedRows => return ⟨.kSuccess, "", some affectedRows⟩

/-- `CountRows`. -/
def countRows (table : String) (whereValues : KeyValues) : Db (Result ℤ) := do
  if !(← isConnected) then
    return .void .kSystemError "database connection is unavailable"
  let sql := "SELECT COUNT(*) AS cnt FROM " ++ table ++ buildWhereSql whereValues
  match ← query sql with
  | none => dbFailureResult
  | some [] => return .void .kSystemError "count query returned no row"
  | some (row :: _) =>
    match assignInt64Field row "cnt" with
    | some count => return ⟨.kSuccess, "", some count⟩
    | none => return .void .kSystemError "count query returned an invalid value"

/-- `SelectRows`. -/
def selectRows (table : String) (whereValues : KeyValues) : Db (Result (List ResultRow)) := do
  if !(← isConnected) then
    return .void .kSystemError "database connection is unavailable"
  let sql := "SELECT * FROM " ++ table ++ buildWhereSql whereValues
  match ← query sql with
  | none => dbFailureResult
  | some rows => return ⟨.kSuccess, "", some rows⟩

/-- `TruncateRows`. -/
def truncateRows (table : String) : Db (Result ℤ) := do
  if !(← isConnected) then
    return .void .kSystemError "database connection is unavailable"
  let sql := "DELETE FROM " ++ table
  match ← execute sql with
  | none => dbFailureResult
  | some affectedRows => return ⟨.kSuccess, "", some affectedRows⟩

end Dao
