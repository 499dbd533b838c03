/-
Module: SqlLineage.Sql.Grammar.RowPattern
Purpose: Patterns of rows, written like regular expressions over names of rows, and the clause that searches
  a relation for them.
Main exports: rowPattern, rowPatternClause
-/
import SqlLineage.Sql.Grammar.Window

namespace SqlLineage.Sql.Grammar

/-! ### Patterns -/

/-- Takes the placeholder of this name if it comes next; says whether it did. -/
def placeholder? (name : String) : Reader Bool := do
  if (← peek) == some (.placeholder name) then
    skip 1
    pure true
  else pure false

/-- A whole number below the size of a word of 32 bits. -/
def repetitionBound : Reader String := do
  let value ← natural
  if value < Nat.pow 2 32 then pure (toString value) else unexpected

/-- How often a pattern occurs, between braces, after the opening one. -/
def repetitionRange : Reader String := do
  if ← symbol? "," then
    let upper ← repetitionBound
    symbol "\x7d"
    pure ("\x7b," ++ upper ++ "\x7d")
  else
    let lower ← repetitionBound
    if ← symbol? "," then
      let upper ← (do if ← peekSymbol "\x7d" then pure "" else repetitionBound)
      symbol "\x7d"
      pure ("\x7b" ++ lower ++ "," ++ upper ++ "\x7d")
    else
      symbol "\x7d"
      pure ("\x7b" ++ lower ++ "\x7d")

/-- How often a pattern occurs, if it is given. -/
def repetition? : Reader (Option String) := do
  if ← symbol? "*" then pure (some "*")
  else if ← symbol? "+" then pure (some "+")
  else if ← placeholder? "?" then pure (some "?")
  else if ← symbol? "\x7b" then return some (← repetitionRange)
  else pure none

/-- A pattern that is repeated as a whole. What stands in parentheses is read by `inner`. -/
def patternBase (dialect : Dialect) (inner : Reader String) : Reader String := do
  if ← symbol? "^" then pure "^"
  else if ← placeholder? "$" then pure "$"
  else if ← symbol? "\x7b" then
    symbol "-"
    let excluded ← name
    symbol "-"
    symbol "\x7d"
    pure ("\x7b- " ++ excluded.render ++ " -\x7d")
  else if ← symbol? "(" then
    let group ← inner
    symbol ")"
    pure ("( " ++ group ++ " )")
  else
    match ← peek with
    | some (.word "PERMUTE" _ none) =>
      skip 1
      return "PERMUTE(" ++ renderNames (← names dialect) ++ ")"
    | _ => return (← name).render

/-- Patterns one after the other, each with its repetitions, up to a bar or a parenthesis. -/
def patternSequence (dialect : Dialect) (inner : Reader String) : Reader String := do
  let repeated : Reader String := do
    let base ← patternBase dialect inner
    return base ++ String.join (← many repetition?)
  let first ← repeated
  let rest ← many do
    if (← peekSymbol ")") || (← peekSymbol "|") then pure none else return some (← repeated)
  pure (Text.joinWith " " (first :: rest))

/-- A pattern in which parentheses are nested at most so deeply. -/
def rowPatternWithin (dialect : Dialect) : Nat → Reader String
  | 0 => unexpected
  | fuel + 1 => do
    let sequence := patternSequence dialect (rowPatternWithin dialect fuel)
    let first ← sequence
    let rest ← many do
      if ← symbol? "|" then return some (← sequence) else pure none
    pure (Text.joinWith " | " (first :: rest))

/-- A pattern of rows. -/
def rowPattern (dialect : Dialect) : Reader String := do
  rowPatternWithin dialect ((← get).tokens.length + 1)

/-! ### The clause -/

section

variable (r : Rules)

/-- A value that is computed for each match. -/
def measure : Reader String := do
  let value ← r.expression
  let _ ← keyword? "AS"
  return value.render ++ " AS " ++ (← name).render

/-- Which rows of a match are given. -/
def rowsPerMatch : Reader String := do
  if ← keywords? ["ONE", "ROW", "PER", "MATCH"] then pure "ONE ROW PER MATCH "
  else if ← keywords? ["ALL", "ROWS", "PER", "MATCH"] then
    let modes : List (List String) := [
      ["SHOW", "EMPTY", "MATCHES"], ["OMIT", "EMPTY", "MATCHES"], ["WITH", "UNMATCHED", "ROWS"]]
    match ← modes.findM? keywords? with
    | some mode => pure ("ALL ROWS PER MATCH " ++ Text.joinWith " " mode ++ " ")
    | none => pure "ALL ROWS PER MATCH "
  else pure ""

/-- Where the search goes on after a match. -/
def afterMatch : Reader String := do
  if ← keywords? ["AFTER", "MATCH", "SKIP"] then
    if ← keywords? ["PAST", "LAST", "ROW"] then pure "AFTER MATCH SKIP PAST LAST ROW "
    else if ← keywords? ["TO", "NEXT", "ROW"] then pure "AFTER MATCH SKIP TO NEXT ROW "
    else
      keyword "TO"
      let bound ← oneOf ["FIRST", "LAST"]
      return "AFTER MATCH SKIP TO " ++ bound ++ " " ++ (← name).render ++ " "
  else pure ""

/-- What a name of rows in a pattern stands for. -/
def rowDefinition : Reader String := do
  let symbol ← name
  keyword "AS"
  return symbol.render ++ " AS " ++ (← r.expression).render

/-- A search for a pattern of rows, after its keyword. -/
def rowPatternClause : Reader String := do
  symbol "("
  let ending := fun (clause : List (List Part)) =>
    String.join (clause.map fun parts => Part.renderAll parts ++ " ")
  let partition ← partitionClause r
  let order ← orderClause r
  let measures ← (do
    if ← keyword? "MEASURES" then
      return "MEASURES " ++ commas (← commaSeparated r.dialect (measure r)) ++ " "
    else pure "")
  let rows ← rowsPerMatch
  let after ← afterMatch
  keyword "PATTERN"
  let pattern ← parenthesized (rowPattern r.dialect)
  keyword "DEFINE"
  let definitions ← commaSeparated r.dialect (rowDefinition r)
  symbol ")"
  pure ("MATCH_RECOGNIZE(" ++ ending partition ++ ending order ++ measures ++ rows ++ after
    ++ "PATTERN (" ++ pattern ++ ") DEFINE " ++ commas definitions ++ ")")

end

end SqlLineage.Sql.Grammar
