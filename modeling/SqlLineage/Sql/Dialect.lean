/-
Module: SqlLineage.Sql.Dialect
Purpose: The dialects of SQL and what they disagree about: the letters of a name, the ways to quote, and
  which constructs of the grammar they know.
Main exports: Dialect, Dialect.ofName, Dialect.backslashEscapes, Dialect.isIdentifierStart
-/
import SqlLineage.Text.Alphabetic
import SqlLineage.Text.Lowercase

namespace SqlLineage.Sql

inductive Dialect where
  | generic
  | ansi
  | bigquery
  | clickhouse
  | databricks
  | duckdb
  | hive
  | mssql
  | mysql
  | postgres
  | redshift
  | snowflake
  | sqlite
deriving Repr, Inhabited, DecidableEq

namespace Dialect

/-- The dialects by name. -/
def names : List (String × Dialect) := [
  ("generic", generic), ("ansi", ansi), ("bigquery", bigquery), ("clickhouse", clickhouse),
  ("databricks", databricks), ("duckdb", duckdb), ("hive", hive), ("mssql", mssql),
  ("mysql", mysql), ("postgres", postgres), ("postgresql", postgres), ("redshift", redshift),
  ("snowflake", snowflake), ("sqlite", sqlite)]

/-- The dialect of this name, in any letter case. A name nobody knows stands for the generic one. -/
def ofName (name : String) : Dialect := (names.lookup (Text.lowercase name)).getD generic

def isAnyOf (dialects : List Dialect) (dialect : Dialect) : Bool := dialects.contains dialect

/-! ### Letters and quotes -/

/-- Whether names are written in the letters of ASCII only. -/
def asciiNames : Dialect → Bool :=
  isAnyOf [ansi, bigquery, clickhouse, databricks, hive, snowflake]

/-- Whether the character is a letter in a name. -/
def isLetter (dialect : Dialect) (c : Char) : Bool :=
  if dialect.asciiNames then c.isAlpha else Text.isAlphabetic c

def isIdentifierStart (dialect : Dialect) (c : Char) : Bool :=
  dialect.isLetter c ||
    match dialect with
    | generic | mssql => c = '_' || c = '#' || c = '@'
    | ansi => false
    | hive => c.isDigit || c = '$'
    | mysql => c = '_' || c = '$' || c = '@' || ('\u0080' ≤ c && c ≤ '\uffff')
    | redshift => c = '_' || c = '#'
    | sqlite => c = '_' || ('\u007f' ≤ c && c ≤ '\uffff')
    | _ => c = '_'

def isIdentifierPart (dialect : Dialect) (c : Char) : Bool :=
  dialect.isLetter c || c.isDigit || c = '_' ||
    match dialect with
    | generic | mssql => c = '@' || c = '$' || c = '#'
    | hive => c = '$' || c = '\x7b' || c = '\x7d'
    | mysql | sqlite => dialect.isIdentifierStart c
    | postgres | duckdb | snowflake => c = '$'
    | redshift => c = '$' || c = '#'
    | _ => false

/-- Whether the character opens a quoted name. -/
def isQuoteStart (dialect : Dialect) (c : Char) : Bool :=
  match dialect with
  | bigquery | databricks | mysql => c = '\x60'
  | mssql => c = '\x22' || c = '['
  | postgres => c = '\x22'
  | sqlite => c = '\x22' || c = '\x60' || c = '['
  | _ => c = '\x22' || c = '\x60'

/-- Whether a backslash in a string literal escapes the character after it. -/
def backslashEscapes : Dialect → Bool := isAnyOf [bigquery, clickhouse, mysql, snowflake]

/-- Whether `\%` and `\_` in a string literal keep their backslash. -/
def keepsWildcardEscapes : Dialect → Bool := isAnyOf [mysql]

/-- Whether three quotes open a string literal. -/
def tripleQuotes : Dialect → Bool := isAnyOf [bigquery]

/-- Whether a name may start with digits. -/
def digitsStartNames : Dialect → Bool := isAnyOf [hive, mysql]

/-- Whether a comment may start with a number sign. -/
def hashComments : Dialect → Bool := isAnyOf [bigquery, hive, mysql, snowflake]

/-- Whether any run of operator characters is an operator. -/
def customOperators : Dialect → Bool := isAnyOf [postgres]

/-- Whether a question mark is an operator. Elsewhere it stands for a value that is filled in. -/
def questionOperators : Dialect → Bool := isAnyOf [postgres]

/-- Whether a bracket may open a quoted name, or a name in quotes of its own. -/
def nestedQuotes : Dialect → Bool := isAnyOf [redshift]

/-! ### Names -/

/-- Whether hyphens may join the parts of a table's name. -/
def hyphenatedTables : Dialect → Bool := isAnyOf [bigquery]

/-- Whether a quoted name may hold several parts with points between them. -/
def pointsInQuotes : Dialect → Bool := isAnyOf [bigquery]

/-- Whether the second part of a name may be left out between two points. -/
def omittedSchema : Dialect → Bool := isAnyOf [snowflake]

/-- Whether any word but a few may name a column of a select list without `AS`. -/
def freeColumnAlias : Dialect → Bool := isAnyOf [snowflake]

/-- The words that are never the name of a column. -/
def reservedNames (dialect : Dialect) : List String :=
  if dialect = snowflake then ["EXISTS", "STRUCT", "TRIM"]
  else ["EXISTS", "INTERVAL", "STRUCT", "TRIM"]

/-! ### Lists -/

/-- Whether any list may end with a comma. -/
def trailingCommas : Dialect → Bool := isAnyOf [duckdb]

def trailingSelectCommas : Dialect → Bool := isAnyOf [bigquery, duckdb, snowflake]

/-- Whether the relations after `FROM` may end with a comma. -/
def trailingTableCommas : Dialect → Bool := isAnyOf [snowflake]

/-- Whether a select list may be empty. -/
def emptySelectList : Dialect → Bool := isAnyOf [generic, postgres]

def emptyInList : Dialect → Bool := isAnyOf [sqlite]

/-- Whether a list of column names may be empty where rows are inserted. -/
def emptyInsertColumns : Dialect → Bool := isAnyOf [mysql]

/-- Whether a row of values may be empty. -/
def emptyRows : Dialect → Bool := isAnyOf [mysql]

/-! ### Expressions -/

def booleanLiterals (dialect : Dialect) : Bool := !dialect.isAnyOf [mssql]

def structLiterals : Dialect → Bool := isAnyOf [generic, bigquery, databricks]

def dictionaryLiterals : Dialect → Bool := isAnyOf [generic, clickhouse, duckdb, snowflake]

def mapLiterals : Dialect → Bool := isAnyOf [generic, duckdb]

def lambdaFunctions : Dialect → Bool := isAnyOf [databricks]

/-- Whether a value may be called like a relation to get all its columns. -/
def wildcardValues : Dialect → Bool := isAnyOf [postgres]

/-- Whether a bracket after a value starts a path into a document. -/
def documentPaths : Dialect → Bool := isAnyOf [redshift, snowflake]

/-- Whether a colon after a value starts a path into a document. -/
def colonPaths : Dialect → Bool := isAnyOf [snowflake]

/-- Whether a bracket after a value takes elements of it. -/
def subscripts : Dialect → Bool := isAnyOf [generic, bigquery, clickhouse, duckdb, postgres]

/-- Whether functions may be called on a value after a point. -/
def methods : Dialect → Bool := isAnyOf [mssql]

def bangNot : Dialect → Bool := isAnyOf [hive]

def factorial : Dialect → Bool := isAnyOf [postgres]

/-- Whether symbols that are operators of Postgres may stand before an operand. -/
def signOperators : Dialect → Bool := isAnyOf [postgres]

/-- Whether an interval literal needs a unit. -/
def intervalUnitRequired : Dialect → Bool :=
  isAnyOf [ansi, bigquery, clickhouse, databricks, hive, mysql]

/-- Whether `CONVERT` names the type before the value. -/
def convertTypeFirst : Dialect → Bool := isAnyOf [mssql, redshift]

def tryConvert : Dialect → Bool := isAnyOf [generic, mssql]

/-- Whether `EXTRACT` takes any name for a field. -/
def customDateFields : Dialect → Bool := isAnyOf [generic, postgres, snowflake]

/-- Whether `MATCH` and `AGAINST` search texts. -/
def fullTextSearch : Dialect → Bool := isAnyOf [generic, mysql]

/-- Whether `(+)` after a column marks the optional side of a join. -/
def outerJoinMark : Dialect → Bool := isAnyOf [mssql, snowflake]

/-! ### Calls -/

/-- Whether an aggregate takes a `FILTER` clause. -/
def aggregateFilter : Dialect → Bool :=
  isAnyOf [databricks, duckdb, hive, postgres, sqlite]

def nullTreatmentArgument : Dialect → Bool := isAnyOf [generic, bigquery, snowflake]

/-- Whether the name of a named argument may be any expression. -/
def argumentNamedByExpression : Dialect → Bool := isAnyOf [mssql, postgres]

/-- The symbols that may stand between the name of an argument and its value. -/
def argumentSymbols (dialect : Dialect) : List String :=
  match dialect with
  | mssql => [":"]
  | postgres => ["=>", ":"]
  | duckdb => ["=>", "=", ":="]
  | generic => ["=>", ":="]
  | _ => ["=>"]

def windowNameReference : Dialect → Bool := isAnyOf [generic, bigquery]

/-! ### Queries -/

/-- Whether `TOP` stands before `DISTINCT`. -/
def topBeforeDistinct : Dialect → Bool := isAnyOf [redshift]

def limitComma : Dialect → Bool := isAnyOf [generic, clickhouse, mysql, sqlite]

def groupingSets : Dialect → Bool := isAnyOf [generic, databricks, duckdb, postgres]

def groupByModifiers : Dialect → Bool := isAnyOf [generic, clickhouse]

def connectBy : Dialect → Bool := isAnyOf [generic, mssql, redshift, snowflake]

def wildcardExcept : Dialect → Bool := isAnyOf [generic, bigquery, clickhouse, databricks]

/-- Whether `name = value` in a select list gives the value that name. -/
def equalsAlias : Dialect → Bool := isAnyOf [mssql]

/-- Whether the clauses of ClickHouse for reading and writing rows are known. -/
def clickhouseClauses : Dialect → Bool := isAnyOf [generic, clickhouse]

/-- Whether a table can be read as of a moment. -/
def timeTravel : Dialect → Bool := isAnyOf [bigquery, mssql, snowflake]

/-- Whether patterns of rows are searched for with `MATCH_RECOGNIZE`. -/
def rowPatterns : Dialect → Bool := isAnyOf [generic, snowflake]

def sampleBeforeAlias : Dialect → Bool := isAnyOf [hive]

/-- Whether a lone table may stand in parentheses. -/
def parenthesizedTable : Dialect → Bool := isAnyOf [generic, snowflake]

end Dialect

end SqlLineage.Sql
