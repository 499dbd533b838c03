/-
Module: SqlLineage.Sql.Grammar.Expression
Purpose: Expressions: operands, and the operators between them by how strongly they bind.
Main exports: operand, subexpression
-/
import SqlLineage.Sql.Grammar.Access
import SqlLineage.Sql.Grammar.Operand
import SqlLineage.Sql.Lexer

namespace SqlLineage.Sql.Grammar

section

variable (r : Rules)

/-! ### Operands that start with a word -/

/-- An expression that starts with a word of a meaning of its own, after that word. -/
def wordExpression? (ident : Ident) (keyword : String) : Reader (Option Expr) := do
  match keyword with
  | "TRUE" | "FALSE" =>
    if r.dialect.booleanLiterals then return some (.plain (Text.lowercase keyword)) else pure none
  | "NULL" => return some (.plain "NULL")
  | "CURRENT_CATALOG" | "CURRENT_USER" | "SESSION_USER" | "USER" =>
    if r.dialect.isAnyOf [.generic, .postgres] then
      return some (.call ident.render false [] [] [])
    else pure none
  | "CURRENT_TIMESTAMP" | "CURRENT_TIME" | "CURRENT_DATE" | "LOCALTIME" | "LOCALTIMESTAMP" =>
    if ← symbol? "(" then return some (.call ident.render false (← arguments r).1 [] [])
    else return some (.call ident.render false [] [] [])
  | "CASE" => return some (← caseExpression r)
  | "CONVERT" => return some (← convertExpression r keyword)
  | "TRY_CONVERT" =>
    if r.dialect.tryConvert then return some (← convertExpression r keyword) else pure none
  | "CAST" | "TRY_CAST" | "SAFE_CAST" => return some (← castExpression r keyword)
  | "EXISTS" =>
    if r.dialect ≠ .databricks || ["SELECT", "WITH"].contains (← peekKeywordAt 1) then
      return some (← existsExpression r "")
    else pure none
  | "EXTRACT" => return some (← extractExpression r)
  | "CEIL" | "FLOOR" => return some (← roundExpression r keyword)
  | "POSITION" =>
    if ← peekSymbol "(" then return some (← positionExpression r ident) else pure none
  | "SUBSTRING" => return some (← substringExpression r)
  | "OVERLAY" => return some (← overlayExpression r)
  | "TRIM" => return some (← trimExpression r)
  | "INTERVAL" => return some (← interval r)
  | "ARRAY" =>
    if ← symbol? "[" then return some (← arrayExpression r keyword)
    else if ← onlyIf (!r.dialect.isAnyOf [.clickhouse, .databricks]) (symbol? "(") then
      let query ← r.query
      symbol ")"
      return some (.call ident.render false ["(", query, ")"] [] [])
    else pure none
  | "NOT" => return some (← notExpression r)
  | "MATCH" =>
    if r.dialect.fullTextSearch then return some (← matchExpression r) else pure none
  | "STRUCT" =>
    if r.dialect.structLiterals then return some (← compound r (← structExpression r) [])
    else pure none
  | "MAP" =>
    if ← onlyIf r.dialect.mapLiterals (symbol? "\x7b") then return some (← mapExpression r)
    else pure none
  | "PRIOR" =>
    if (← get).inHierarchy then return some (.phrase ["PRIOR ", ← r.above .sum]) else pure none
  | _ => pure none

/-- An expression that starts with a name, after that name. -/
def namedExpression (ident : Ident) : Reader Expr := do
  match ← peek with
  | some (.symbol ".") => compound r (.column [ident]) []
  | some (.symbol "(") =>
    if ← startsOuterJoinMark r then compound r (.column [ident]) []
    else compound r (← withMethods r (← call r [ident])) []
  | some (.symbol "[") =>
    if r.dialect.subscripts then return ← compound r (.column [ident]) (← subscripts r)
    else pure (.column [ident])
  | some (.text style value) =>
    if [.single, .double, .hex].contains style && ident.value.startsWith "_" then
      skip 1
      pure (.plain (ident.value ++ " " ++ style.render value))
    else pure (.column [ident])
  | some (.symbol "->") =>
    if r.dialect.lambdaFunctions then
      skip 1
      return .phrase [.text (ident.render ++ " -> "), ← r.expression]
    else pure (.column [ident])
  | _ => pure (.column [ident])

/-! ### Operands that start with a symbol -/

/-- A function without a name, after its opening parenthesis. -/
def lambda : Reader Expr := do
  let parameters ← commaSeparated r.dialect name
  symbol ")"
  symbol "->"
  return .phrase [.text ("(" ++ renderNames parameters ++ ") -> "), ← r.expression]

/-- What stands in parentheses, after the opening one: a query or expressions. A name after it takes a
part of the value. -/
def parenthesizedExpression : Reader Expr := do
  let inner ← (do
    if ← startsQuery then return .subquery (← r.query)
    else
      match ← r.expressions with
      | [expr] => pure (.nested expr)
      | found => pure (.phrase (.text "(" :: commaParts found ++ [.text ")"])))
  symbol ")"
  let value ← withMethods r inner
  if ← symbol? "." then
    match ← next with
    | .word part _ quote => pure (.phrase [value, .text ("." ++ Ident.render { value := part, quote })])
    | _ => unexpected
  else pure value

/-- An operator before an operand that binds as strongly as the class. -/
def negative (operator : String) (strength : Strength) : Reader Expr := do
  return .phrase [.text operator, ← r.above strength]

/-- An operand that does not start with a word. -/
def symbolExpression : Reader Expr := do
  match ← peek with
  | some (.symbol "[") =>
    skip 1
    arrayExpression r ""
  | some (.symbol "(") =>
    skip 1
    parenthesizedExpression r
  | some (.symbol "\x7b") =>
    skip 1
    bracedExpression r
  | some (.symbol symbol) =>
    if symbol = "-" || symbol = "+" then
      skip 1
      negative r symbol .product
    else if symbol = "!" && r.dialect.bangNot then
      skip 1
      negative r symbol .negation
    else if r.dialect.signOperators && ["!!", "|/", "||/", "@", "~"].contains symbol then
      skip 1
      negative r symbol .sum
    else return .plain (← literal r.dialect)
  | _ => return .plain (← literal r.dialect)

/-! ### All operands -/

/-- A literal after the name of its type. Types that the grammar does not know have none. -/
def typedLiteral : Reader Expr := do
  match ← dataType r.dialect with
  | .interval => interval r
  | .builtin type => return .plain (type ++ " " ++ inQuotes '\x27' (← stringValue r.dialect))
  | .custom _ => unexpected

/-- The clauses after an operand. -/
def withClauses (value : Expr) : Reader Expr := do
  let value ← withMethods r value
  if ← keyword? "COLLATE" then
    return .phrase [value, .text (" COLLATE " ++ renderPath (← path r.dialect))]
  else pure value

/-- An operand that starts with a word. A word with a meaning of its own is a name where the construct it
stands for is not there; no clause follows it then. -/
def wordOperand (ident : Ident) (keyword : String) : Reader Expr := do
  let (value, mayHaveClauses) ←
    orElse (!r.dialect.reservedNames.contains keyword)
      (return (← wordExpression? r ident keyword).map (·, true))
      (return (← namedExpression r ident, true))
      (return (← namedExpression r ident, false))
  if mayHaveClauses then withClauses r value else pure value

/-- A function without a name, if the dialect has such functions and one comes next. -/
def lambda? : Reader (Option Expr) := do
  let opensQuery := ["SELECT", "WITH"].contains (← peekKeywordAt 1)
  if r.dialect.lambdaFunctions && (← peekSymbol "(") && !opensQuery then
    attempt (do symbol "("; lambda r)
  else pure none

/-- An expression without an operator between two operands. -/
def operand : Reader Expr := do
  match ← attempt (typedLiteral r) with
  | some expr => pure expr
  | none =>
    match ← peek with
    | some (.word value keyword quote) =>
      skip 1
      wordOperand r { value, quote } keyword
    | _ =>
      match ← lambda? r with
      | some expr => pure expr
      | none => return ← withClauses r (← symbolExpression r)

/-! ### Operators -/

/-- The character that escapes wildcards in a pattern. -/
def escapeCharacter : Reader String := do
  if ← keyword? "ESCAPE" then return " ESCAPE \x27" ++ (← stringValue r.dialect) ++ "\x27"
  else pure ""

/-- A pattern that a value is matched with. -/
def patternTest (left : Expr) (operator : String) : Reader Expr := do
  let pattern ← r.above .pattern
  let escape ← escapeCharacter r
  pure (.phrase [left, .text (" " ++ operator ++ " "), pattern, .text escape])

/-- The values among which another one is looked for. -/
def membership (left : Expr) (negation : String) : Reader Expr := do
  let opening := fun (words : String) => Part.text (" " ++ negation ++ "IN " ++ words ++ "(")
  if ← keyword? "UNNEST" then
    let array ← parenthesized r.expression
    pure (.phrase [left, opening "UNNEST", array, ")"])
  else
    symbol "("
    if ← startsQuery then
      let query ← r.query
      symbol ")"
      pure (.phrase [left, opening "", query, ")"])
    else
      let values ← (do
        if r.dialect.emptyInList then commaSeparatedOrNone r.dialect ")" r.expression
        else r.expressions)
      symbol ")"
      pure (.phrase (.operand left :: opening "" :: commaParts values ++ [.text ")"]))

/-- A test whether a value lies in a range, matches a pattern or is a member. -/
def rangeTest (left : Expr) : Reader Expr := do
  let negation := if ← keyword? "NOT" then "NOT " else ""
  let byRegexp ← keyword? "REGEXP"
  if (← keyword? "RLIKE") || byRegexp then
    let word := if byRegexp then "REGEXP " else "RLIKE "
    return .phrase [left, .text (" " ++ negation ++ word), ← r.above .pattern]
  match ← oneOf? ["IN", "BETWEEN", "LIKE", "ILIKE", "SIMILAR"] with
  | some "IN" => membership r left negation
  | some "BETWEEN" =>
    let lower ← r.above .range
    keyword "AND"
    let upper ← r.above .range
    pure (.phrase [left, .text (" " ++ negation ++ "BETWEEN "), lower, " AND ", upper])
  | some "SIMILAR" =>
    keyword "TO"
    patternTest r left (negation ++ "SIMILAR TO")
  | some word =>
    let any := if ← keyword? "ANY" then " ANY" else ""
    patternTest r left (negation ++ word ++ any)
  | none => unexpected

/-- The normal form that a text is tested for. -/
def normalForm : Reader String := do
  let negation := if ← keyword? "NOT" then "NOT " else ""
  let form := match ← oneOf? ["NFC", "NFD", "NFKC", "NFKD"] with
    | some form => form ++ " "
    | none => ""
  keyword "NORMALIZED"
  pure (negation ++ form ++ "NORMALIZED")

/-- A test of a property of a value, after `IS`. -/
def propertyTest (left : Expr) : Reader Expr := do
  let simple : List (List String) := [
    ["NULL"], ["NOT", "NULL"], ["TRUE"], ["NOT", "TRUE"], ["FALSE"], ["NOT", "FALSE"], ["UNKNOWN"],
    ["NOT", "UNKNOWN"]]
  let found ← simple.findM? keywords?
  match found with
  | some words => pure (.phrase [left, .text (" IS " ++ Text.joinWith " " words)])
  | none =>
    if ← keywords? ["DISTINCT", "FROM"] then
      return .phrase [left, " IS DISTINCT FROM ", ← r.expression]
    else if ← keywords? ["NOT", "DISTINCT", "FROM"] then
      return .phrase [left, " IS NOT DISTINCT FROM ", ← r.expression]
    else return .phrase [left, .text (" IS " ++ (← normalForm))]

/-- A comparison with every value or with any value of a set, after the operator. -/
def quantified (left : Expr) (operator quantifier : String) (level : Nat) : Reader Expr := do
  let isQuery := ["SELECT", "WITH"].contains (← peekKeywordAt 1)
  let right ← (do
    if isQuery then
      if ← peekSymbol "(" then r.subexpression level else unexpected
    else
      symbol "("
      let value ← r.subexpression level
      symbol ")"
      pure value)
  let opening := " " ++ operator ++ " " ++ quantifier
  if !(["=", "<>", "<", "<=", ">", ">="].contains operator) then unexpected
  else if right.isSubquery then pure (.phrase [left, .text opening, right])
  else pure (.phrase [left, .text (opening ++ "("), right, ")"])

/-- The name of an operator in parentheses, with its qualifiers. -/
def operatorName : Reader String := do
  symbol "("
  let part : Reader String := do
    match ← next with
    | .word value _ quote => pure (writtenWord value quote)
    | .number digits long => pure (if long then digits ++ "L" else digits)
    | .symbol "!=" => pure "<>"
    | .symbol symbol | .customOperator symbol => pure symbol
    | _ => unexpected
  let first ← part
  let rest ← many do
    if ← symbol? "." then return some (← part) else pure none
  symbol ")"
  pure ("OPERATOR(" ++ Text.joinWith "." (first :: rest) ++ ")")

/-- An operator between two operands, after it was taken. -/
def binaryOperator (token : Token) : Reader (Option String) := do
  if token.keyword == "OPERATOR" && r.dialect.isAnyOf [.generic, .postgres] then
    return some (← operatorName)
  else pure (binaryOperator? r.dialect token)

/-- What an operator of this level makes of the operand before it and what follows. In MySQL everything
that follows is divided by after `DIV`. -/
def operation (left : Expr) (level : Nat) : Reader Expr := do
  if ← onlyIf (r.dialect = .mysql) (keyword? "DIV") then
    return .operation left "DIV" (← r.expression)
  else
    let token ← next
    match ← binaryOperator r token with
    | some operator =>
      match ← oneOf? ["ANY", "ALL", "SOME"] with
      | some quantifier => quantified r left operator quantifier level
      | none => return .operation left operator (← r.subexpression level)
    | none =>
      match token with
      | .word _ "IS" _ => propertyTest r left
      | .word _ "AT" _ =>
        keywords ["TIME", "ZONE"]
        return .phrase [left, " AT TIME ZONE ", ← r.subexpression level]
      | .word _ _ _ =>
        putBack token
        rangeTest r left
      | .symbol "::" => return .phrase [left, .text ("::" ++ (← dataType r.dialect).render)]
      | .symbol "!" =>
        if r.dialect.factorial then pure (.phrase [left, "!"]) else unexpected
      | .symbol "[" | .symbol ":" =>
        putBack token
        if r.dialect.documentPaths then return .phrase (.operand left :: (← documentPath r))
        else if r.dialect.subscripts then return ← compound r left (← subscripts r)
        else unexpected
      | _ => unexpected

/-- An expression whose operators all bind more strongly than the level. -/
def subexpression (level : Nat) : Reader Expr := deeper do
  let first ← operand r
  iterate (fun left => do
    let strength ← operatorStrength r.dialect
    if level < strength then return some (← operation r left strength) else pure none) first

end

end SqlLineage.Sql.Grammar
