/-
Module: SqlLineage.Sql.Grammar.Interval
Purpose: Spans of time and the parts of a date.
Main exports: timeUnits, dateField, interval
-/
import SqlLineage.Sql.Grammar.Rules

namespace SqlLineage.Sql.Grammar

/-- The units of time that a span may be given in. -/
def timeUnits : List String := [
  "YEAR", "YEARS", "MONTH", "MONTHS", "WEEK", "WEEKS", "DAY", "DAYS", "HOUR", "HOURS", "MINUTE",
  "MINUTES", "SECOND", "SECONDS", "CENTURY", "DECADE", "DOW", "DOY", "EPOCH", "ISODOW", "ISOYEAR",
  "JULIAN", "MICROSECOND", "MICROSECONDS", "MILLENIUM", "MILLENNIUM", "MILLISECOND",
  "MILLISECONDS", "NANOSECOND", "NANOSECONDS", "QUARTER", "TIMEZONE", "TIMEZONE_HOUR",
  "TIMEZONE_MINUTE"]

/-- The parts of a date that are no units of a span. -/
def dateParts : List String := [
  "DATE", "DATETIME", "DAYOFWEEK", "DAYOFYEAR", "ISOWEEK", "TIME", "TIMEZONE_ABBR",
  "TIMEZONE_REGION"]

section

variable (r : Rules)

/-- A part of a date, by its keyword or, where the dialect allows it, by any name. -/
def dateField : Reader String := do
  match ← next with
  | .word value keyword quote =>
    if ← onlyIf (keyword = "WEEK" && r.dialect.isAnyOf [.bigquery, .generic]) (symbol? "(") then
      let start ← name
      symbol ")"
      pure ("WEEK(" ++ start.render ++ ")")
    else if timeUnits.contains keyword || dateParts.contains keyword then pure keyword
    else if r.dialect.customDateFields then pure (Ident.render { value, quote })
    else unexpected
  | .text .single value =>
    if r.dialect.customDateFields then pure (inQuotes '\x27' value) else unexpected
  | _ => unexpected

/-- The unit that a span reaches down to, with its precision. -/
def lastUnit : Reader String := do
  if ← keyword? "TO" then
    let last ← dateField r
    let fraction ← (do if last = "SECOND" then size? else pure "")
    pure (" TO " ++ last ++ spaced fraction)
  else pure ""

/-- The unit of a span with its precision, and the unit that it reaches down to. -/
def intervalUnits : Reader String := do
  if timeUnits.contains (← peekKeyword) then
    let unit ← dateField r
    if unit = "SECOND" then
      let precision ← precision? ", "
      pure (" " ++ unit ++ spaced precision)
    else
      let precision ← size?
      return " " ++ unit ++ spaced precision ++ (← lastUnit r)
  else if r.dialect.intervalUnitRequired then unexpected
  else
    let precision ← size?
    return spaced precision ++ (← lastUnit r)

/-- A span of time, after its keyword if that is written. -/
def interval : Reader Expr := do
  let amount ← (do if r.dialect.intervalUnitRequired then r.expression else r.operand)
  let units ← intervalUnits r
  pure (.phrase ["INTERVAL ", amount, .text units])

end

end SqlLineage.Sql.Grammar
