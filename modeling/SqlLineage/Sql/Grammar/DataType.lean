/-
Module: SqlLineage.Sql.Grammar.DataType
Purpose: The names of data types, in the form in which they are written out. A sign of two angle brackets
  closes two types at once, so that the reading of a type says whether it closed the one around it too.
Main exports: TypeName, dataType, structFields
-/
import SqlLineage.Sql.Grammar.Basic

namespace SqlLineage.Sql.Grammar

/-- The name of a data type. -/
inductive TypeName where
  | builtin (text : String)
  /-- A span of time, whose literals have a form of their own. -/
  | interval
  /-- A type that the grammar knows nothing of. -/
  | custom (text : String)
deriving Repr, Inhabited, DecidableEq

namespace TypeName

def render : TypeName → String
  | builtin text | custom text => text
  | interval => "INTERVAL"

end TypeName

/-- The types that take no argument, and how they are written out. -/
def simpleTypes : List (String × String) := [
  ("BOOLEAN", "BOOLEAN"), ("BOOL", "BOOL"), ("REAL", "REAL"), ("FLOAT4", "FLOAT4"),
  ("FLOAT8", "FLOAT8"), ("FLOAT32", "Float32"), ("FLOAT64", "FLOAT64"), ("INT16", "Int16"),
  ("INT32", "Int32"), ("INT64", "INT64"), ("INT128", "Int128"), ("INT256", "Int256"),
  ("UINT8", "UInt8"), ("UINT16", "UInt16"), ("UINT32", "UInt32"), ("UINT64", "UInt64"),
  ("UINT128", "UInt128"), ("UINT256", "UInt256"), ("UUID", "UUID"), ("DATE", "DATE"),
  ("DATE32", "Date32"), ("JSON", "JSON"), ("JSONB", "JSONB"), ("REGCLASS", "REGCLASS"),
  ("TEXT", "TEXT"), ("TINYTEXT", "TINYTEXT"), ("MEDIUMTEXT", "MEDIUMTEXT"),
  ("LONGTEXT", "LONGTEXT"), ("TINYBLOB", "TINYBLOB"), ("MEDIUMBLOB", "MEDIUMBLOB"),
  ("LONGBLOB", "LONGBLOB"), ("BYTEA", "BYTEA"), ("TRIGGER", "TRIGGER")]

/-- The types that take a length. -/
def sizedTypes : List String := [
  "FLOAT", "CLOB", "BINARY", "VARBINARY", "BLOB", "BYTES", "DATETIME", "STRING", "TIMESTAMPTZ",
  "TIMETZ"]

/-- The types of whole numbers that take a width and may be without a sign. -/
def integerTypes : List String := [
  "TINYINT", "SMALLINT", "MEDIUMINT", "INT", "INTEGER", "BIGINT", "INT2", "INT4", "INT8"]

/-- The types of decimal numbers. -/
def decimalTypes : List String := ["NUMERIC", "DECIMAL", "DEC", "BIGNUMERIC", "BIGDECIMAL"]

/-- A number in parentheses, if there is one. -/
def size? : Reader String := do
  if ← symbol? "(" then
    let value ← natural
    symbol ")"
    pure ("(" ++ toString value ++ ")")
  else pure ""

/-- One or two numbers in parentheses, if there are any. -/
def precision? (separator : String) : Reader String := do
  if ← symbol? "(" then
    let precision ← natural
    let scale ← (do if ← symbol? "," then return separator ++ toString (← natural) else pure "")
    symbol ")"
    pure ("(" ++ toString precision ++ scale ++ ")")
  else pure ""

/-- The length of a text with its unit, if there is one. -/
def textLength? : Reader String := do
  if ← symbol? "(" then
    let length ← (do
      if ← keyword? "MAX" then pure "MAX"
      else
        let value ← natural
        match ← oneOf? ["CHARACTERS", "OCTETS"] with
        | some unit => pure (toString value ++ " " ++ unit)
        | none => pure (toString value))
    symbol ")"
    pure ("(" ++ length ++ ")")
  else pure ""

/-- A type of texts. -/
def textType (word : String) : Reader String := do
  if ← keyword? "VARYING" then return word ++ " VARYING" ++ (← textLength?)
  else if ← keywords? ["LARGE", "OBJECT"] then return word ++ " LARGE OBJECT" ++ (← size?)
  else return word ++ (← textLength?)

/-- A type of moments, with or without a zone. -/
def momentType (word : String) : Reader String := do
  let size ← size?
  if ← keyword? "WITH" then
    keywords ["TIME", "ZONE"]
    pure (word ++ size ++ " WITH TIME ZONE")
  else if ← keyword? "WITHOUT" then
    keywords ["TIME", "ZONE"]
    pure (word ++ size ++ " WITHOUT TIME ZONE")
  else pure (word ++ size)

/-- A precision and the zone that moments are in. -/
def zonedPrecision (dialect : Dialect) : Reader String := do
  symbol "("
  let precision ← natural
  let zone ← (do
    if ← symbol? "," then return ", \x27" ++ (← stringValue dialect) ++ "\x27" else pure "")
  symbol ")"
  pure ("(" ++ toString precision ++ zone ++ ")")

/-- The values of a set. -/
def setValues : Reader String := do
  let values ← parenthesized (commaSeparatedUntil (pure false) singleQuoted)
  pure ("(" ++ commas (values.map (inQuotes '\x27')) ++ ")")

/-- The values of an enumeration, with the numbers they stand for. -/
def enumeration (dialect : Dialect) : Reader String := do
  let values ← parenthesized <| commaSeparated dialect do
    let value := inQuotes '\x27' (← stringValue dialect)
    if ← symbol? "=" then return value ++ " = " ++ (← signedNumber dialect) else pure value
  pure ("(" ++ commas values ++ ")")

/-- The words that follow the name of a custom type in parentheses. -/
def modifiers : Reader (List String) := do
  let found ← many do
    match ← next with
    | .word value _ quote => pure (some [writtenWord value quote])
    | .number digits _ => pure (some [digits])
    | .text .single value => pure (some [value])
    | .symbol "," => pure (some [])
    | .symbol ")" => pure none
    | _ => unexpected
  pure found.flatten

/-- The name of a type that the grammar knows nothing of. -/
def customType (dialect : Dialect) : Reader TypeName := do
  let name ← path dialect
  if ← symbol? "(" then
    let found ← modifiers
    if found.isEmpty then pure (.custom (renderPath name))
    else pure (.custom (renderPath name ++ "(" ++ commas found ++ ")"))
  else pure (.custom (renderPath name))

/-- The bracket that closes the arguments of a type, which the last of them may have closed already. Says
whether the type around it is closed too. -/
def closingAngle (isClosed : Bool) : Reader Bool := do
  if isClosed then pure false
  else if ← symbol? ">" then pure false
  else if ← symbol? ">>" then pure true
  else unexpected

/-- A name and a type after it. -/
def namedField (element : Reader TypeName) : Reader String := do
  let field ← name
  return field.render ++ " " ++ (← element).render

/-- A field of a record, with its name if two words stand next to each other. -/
def structField (element : Reader (TypeName × Bool)) : Reader (String × Bool) := do
  match ← peekAt 0, ← peekAt 1 with
  | some (.word _ _ _), some (.word _ _ _) =>
    let field ← name
    let (type, isClosed) ← element
    pure (field.render ++ " " ++ type.render, isClosed)
  | _, _ =>
    let (type, isClosed) ← element
    pure (type.render, isClosed)

/-- The fields of a record between angle brackets, if they are given, and whether the type around it is
closed too. -/
def structFields (element : Reader (TypeName × Bool)) : Reader (List String × Bool) := do
  if ← symbol? "<" then
    let first ← structField element
    let (fields, isClosed) ← iterate (fun (fields, isClosed) => do
      if ← symbol? "," then
        if isClosed then unexpected
        else
          let (field, isClosed) ← structField element
          pure (some (fields ++ [field], isClosed))
      else pure none) ([first.1], first.2)
    return (fields, ← closingAngle isClosed)
  else pure ([], false)

/-- A type whose arguments are read by `element`, from its keyword, where that is the keyword of a type
that takes other types. Says whether the type around it is closed too. -/
def compoundType? (dialect : Dialect) (element : Reader (TypeName × Bool)) (word : String) :
    Option (Reader (String × Bool)) :=
  let inner : Reader TypeName := do
    let (type, isClosed) ← element
    if isClosed then unexpected else pure type
  let closed := fun (read : Reader String) => some (do return (← read, false))
  let wrapped := fun (outer : String) =>
    closed do return outer ++ "(" ++ (← parenthesized inner).render ++ ")"
  let listed := fun (outer : String) (field : Reader String) =>
    closed do return outer ++ "(" ++ commas (← parenthesized (commaSeparated dialect field)) ++ ")"
  let nests := dialect.isAnyOf [.clickhouse, .generic]
  match word with
  | "ARRAY" =>
    if dialect = .snowflake then closed (pure "ARRAY")
    else if dialect = .clickhouse then wrapped "Array"
    else
      some do
        symbol "<"
        let (type, isClosed) ← element
        return ("ARRAY<" ++ type.render ++ ">", ← closingAngle isClosed)
  | "STRUCT" =>
    if dialect = .duckdb then listed "STRUCT" (namedField inner)
    else if dialect.isAnyOf [.bigquery, .databricks, .generic] then
      some do
        let (fields, isClosed) ← structFields element
        if fields.isEmpty then pure ("STRUCT", isClosed)
        else pure ("STRUCT<" ++ commas fields ++ ">", isClosed)
    else none
  | "UNION" =>
    if dialect.isAnyOf [.duckdb, .generic] then listed "UNION" (namedField inner) else none
  | "NULLABLE" => if nests then wrapped "Nullable" else none
  | "LOWCARDINALITY" => if nests then wrapped "LowCardinality" else none
  | "NESTED" => if nests then listed "Nested" (namedField inner) else none
  | "TUPLE" =>
    if nests then
      closed do
        let fields ← parenthesized (commaSeparatedUntil (pure false) (structField element))
        pure ("Tuple(" ++ commas (fields.map Prod.fst) ++ ")")
    else none
  | "MAP" =>
    if nests then
      closed <| parenthesized do
        let key ← inner
        symbol ","
        return "Map(" ++ key.render ++ ", " ++ (← inner).render ++ ")"
    else none
  | _ => none

/-- A type that takes no other types, from its keyword. -/
def plainType? (dialect : Dialect) (word : String) : Option (Reader String) :=
  match simpleTypes.lookup word with
  | some text => some (pure text)
  | none =>
    if sizedTypes.contains word then some do return word ++ (← size?)
    else if integerTypes.contains word then
      some do
        let size ← size?
        pure (word ++ size ++ if ← keyword? "UNSIGNED" then " UNSIGNED" else "")
    else if decimalTypes.contains word then some do return word ++ (← precision? ",")
    else
      match word with
      | "DOUBLE" =>
        some do
          if ← keyword? "PRECISION" then pure "DOUBLE PRECISION"
          else return "DOUBLE" ++ (← precision? ",")
      | "VARCHAR" | "NVARCHAR" => some do return word ++ (← textLength?)
      | "CHARACTER" | "CHAR" => some (textType word)
      | "FIXEDSTRING" => some do return "FixedString(" ++ toString (← parenthesized natural) ++ ")"
      | "BIT" =>
        some do
          if ← keyword? "VARYING" then return "BIT VARYING" ++ (← size?)
          else return "BIT" ++ (← size?)
      | "TIMESTAMP" | "TIME" => some (momentType word)
      | "DATETIME64" => some do return "DateTime64" ++ (← zonedPrecision dialect)
      | "ENUM" | "ENUM8" | "ENUM16" => some do return word ++ (← enumeration dialect)
      | "SET" => some do return word ++ (← setValues)
      | _ => none

/-- The name of a data type whose arguments are read by `element`, and whether the type around it is
closed too. -/
def typeOf (dialect : Dialect) (element : Reader (TypeName × Bool)) : Reader (TypeName × Bool) := do
  let word ← peekKeyword
  match plainType? dialect word, compoundType? dialect element word with
  | some read, _ =>
    skip 1
    return (.builtin (← read), false)
  | none, some read =>
    skip 1
    let (text, isClosed) ← read
    pure (.builtin text, isClosed)
  | none, none =>
    if word == "INTERVAL" then
      skip 1
      pure (.interval, false)
    else if ← keywords? ["ANY", "TYPE"] then pure (.builtin "ANY TYPE", false)
    else
      match ← peek with
      | some (.word _ _ _) => return (← customType dialect, false)
      | _ => unexpected

/-- The number of elements of a list, if it is given. -/
def arrayBounds (dialect : Dialect) : Reader (Option String) := do
  if ← symbol? "[" then
    let size ← (do
      if dialect.isAnyOf [.duckdb, .generic, .postgres] then attempt natural else pure none)
    symbol "]"
    pure (some ("[" ++ (size.map toString).getD "" ++ "]"))
  else pure none

/-- The name of a data type whose arguments are nested at most so deeply, and whether the type around it
is closed too. -/
def dataTypeWithin (dialect : Dialect) : Nat → Reader (TypeName × Bool)
  | 0 => unexpected
  | fuel + 1 => do
    let (type, isClosed) ← typeOf dialect (dataTypeWithin dialect fuel)
    let bounds ← many (arrayBounds dialect)
    if bounds.isEmpty then pure (type, isClosed)
    else pure (.builtin (type.render ++ String.join bounds), isClosed)

/-- The name of a data type that may be an argument of another one. -/
def innerType (dialect : Dialect) : Reader (TypeName × Bool) := do
  dataTypeWithin dialect ((← get).tokens.length + 1)

/-- The name of a data type. It closes no other one. -/
def dataType (dialect : Dialect) : Reader TypeName := do
  let (type, isClosed) ← innerType dialect
  if isClosed then unexpected else pure type

end SqlLineage.Sql.Grammar
