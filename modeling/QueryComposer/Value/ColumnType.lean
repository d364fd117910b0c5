import QueryComposer.Text.Case
import QueryComposer.UnknownName
import QueryComposer.Value.Basic

set_option autoImplicit false

/-!
Reading the name of a type: one of the names of the types themselves, or the type name that a
database gives to a column.
-/

namespace QueryComposer.ValueType

open QueryComposer.Text

/-- Read the name of a type, in either case. -/
def parse (text : String) : Except UnknownName ValueType :=
  let name := toLower (trim text)
  if ["string", "text"].contains name then .ok .string
  else if ["number", "numeric"].contains name then .ok .number
  else if ["boolean", "bool"].contains name then .ok .boolean
  else if name = "date" then .ok .date
  else if ["array", "list"].contains name then .ok .array
  else .error ⟨"value type", name⟩

/-- The column types that hold numbers. -/
def numberColumns : List String :=
  [ "INT", "INTEGER", "INT2", "INT4", "INT8", "BIGINT", "SMALLINT", "TINYINT", "MEDIUMINT",
    "SERIAL", "BIGSERIAL", "SMALLSERIAL", "DECIMAL", "NUMERIC", "NUMBER", "FLOAT", "FLOAT4",
    "FLOAT8", "DOUBLE", "DOUBLE PRECISION", "REAL", "MONEY" ]

/-- The column types that hold truth values. -/
def booleanColumns : List String :=
  ["BOOL", "BOOLEAN", "BIT"]

/-- The column types that hold days or times. -/
def dateColumns : List String :=
  [ "DATE", "DATETIME", "DATETIME2", "SMALLDATETIME", "TIME", "TIMETZ", "TIMESTAMP", "TIMESTAMPTZ",
    "INTERVAL", "YEAR" ]

/-- The part of an upper-case column type that names it: what stands before the first parenthesis,
without the word for unsigned at either end. -/
def baseName (upper : List Char) : List Char :=
  dropEnds " UNSIGNED".toList
    (dropStarts "UNSIGNED ".toList (trimChars (upper.takeWhile (· ≠ '('))))

/-- The column type is one of an array: it ends in brackets, or begins with the word or an
underscore. -/
def isArrayColumn (upper : List Char) : Bool :=
  endsWith "[]".toList upper || startsWith "ARRAY".toList upper || startsWith ['_'] upper

/-- The type of a column, from the name a database gives to it. Names that are not known count as
text. -/
def ofColumnType (columnType : String) : ValueType :=
  let upper := upperChars (trimChars columnType.toList)
  if isArrayColumn upper then .array
  else
    let base := baseName upper
    let name := String.ofList base
    if numberColumns.contains name then .number
    else if booleanColumns.contains name then .boolean
    else if dateColumns.contains name then .date
    else if startsWith "TIMESTAMP".toList base || startsWith "TIME ".toList base then .date
    else .string

end QueryComposer.ValueType
